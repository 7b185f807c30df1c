/-
**Literal coordinates are read exactly as they are written.**

The four shapes of a literal coordinate form a small grammar, in which a word of a shape denotes one position
(`Shape.Denotes`). Each of the four readers accepts its own shape and nothing else, so that the shapes may be
tried in any order: no word denotes two positions, although whole degrees are decimal degrees as well.

* `leadingDecimal?_eq_some`: a number at the front of a text is read up to its end;
* `Shape.read?_eq_some`: every shape is read as it is written;
* `Shape.Denotes.unique`: a word denotes one position at most, in whichever shapes;
* `shaped?_eq_findSome?`: the order in which the shapes are tried does not matter;
* `parse_exact`: what a word is taken for.
-/

import Mathlib.Data.List.TakeWhile
import FlightRoute.Coordinate

namespace FlightRoute.Position

open Text.Digits

/-! ### The grammar -/

/-- The shapes of a literal coordinate: ddddX, ddXdd, XddYddd, and decimal degrees. -/
inductive Shape
  | trailingLetter
  | middleLetter
  | wholeDegrees
  | decimalDegrees

/-- What a quadrant letter says: whether the position is north, and whether it is east. -/
inductive Quadrant : Char → Bool → Bool → Prop
  | northWest : Quadrant 'N' true false
  | northEast : Quadrant 'E' true true
  | southEast : Quadrant 'S' false true
  | southWest : Quadrant 'W' false false

/-- Whether a latitude is north. -/
inductive Northing : Char → Bool → Prop
  | north : Northing 'N' true
  | south : Northing 'S' false

/-- Whether a longitude is east. -/
inductive Easting : Char → Bool → Prop
  | east : Easting 'E' true
  | west : Easting 'W' false

/-- Degrees on one side of zero or the other. -/
def signed (positive : Bool) (degrees : Float) : Float := if positive then degrees else -degrees

/-- A number of one to `most` digits, and perhaps a point with one digit or more behind it. -/
inductive Numeral (most : Nat) : List Char → Float → Prop
  | whole {digits : List Char} : digits ≠ [] → digits.length ≤ most →
      (∀ digit ∈ digits, digit.isDigit = true) → Numeral most digits (decimal digits [])
  | point {digits places : List Char} : digits ≠ [] → digits.length ≤ most →
      (∀ digit ∈ digits, digit.isDigit = true) → places ≠ [] →
      (∀ digit ∈ places, digit.isDigit = true) →
      Numeral most (digits ++ '.' :: places) (decimal digits places)

/-- The position that a word of a shape denotes. -/
inductive Shape.Denotes : Shape → List Char → Position → Prop
  | trailingLetter {a b c d letter : Char} {north east : Bool} :
      (∀ digit ∈ [a, b, c, d], digit.isDigit = true) → Quadrant letter north east →
      Denotes .trailingLetter [a, b, c, d, letter]
        ⟨signed north (decimal [a, b] []), signed east (decimal [c, d] [])⟩
  | middleLetter {a b c d letter : Char} {north east : Bool} :
      (∀ digit ∈ [a, b, c, d], digit.isDigit = true) → Quadrant letter north east →
      Denotes .middleLetter [a, b, letter, c, d]
        ⟨signed north (decimal [a, b] []), signed east (decimal [c, d] [] + 100.0)⟩
  | wholeDegrees {a b c d e latitude longitude : Char} {north east : Bool} :
      (∀ digit ∈ [a, b, c, d, e], digit.isDigit = true) → Northing latitude north →
      Easting longitude east →
      Denotes .wholeDegrees [latitude, a, b, longitude, c, d, e]
        ⟨signed north (decimal [a, b] []), signed east (decimal [c, d, e] [])⟩
  | decimalDegrees {latitude longitude : Char} {north east : Bool} {front back : List Char}
      {lat lon : Float} :
      Northing latitude north → Numeral 2 front lat → Easting longitude east → Numeral 3 back lon →
      Denotes .decimalDegrees (latitude :: front ++ longitude :: back)
        ⟨signed north lat, signed east lon⟩

/-! ### Letters -/

variable {letter : Char} {lat lon value : Float} {position : Position}

theorem inQuadrant_eq_some :
    inQuadrant letter lat lon = some position ↔
      ∃ north east, Quadrant letter north east ∧ position = ⟨signed north lat, signed east lon⟩ := by
  constructor
  · intro found
    unfold inQuadrant at found
    split at found
    · exact ⟨true, false, .northWest, (Option.some.inj found).symm⟩
    · exact ⟨true, true, .northEast, (Option.some.inj found).symm⟩
    · exact ⟨false, true, .southEast, (Option.some.inj found).symm⟩
    · exact ⟨false, false, .southWest, (Option.some.inj found).symm⟩
    · cases found
  · rintro ⟨north, east, quadrant, rfl⟩
    cases quadrant <;> rfl

theorem latitude_eq_some {degrees : Float} :
    latitude letter value = some degrees ↔
      ∃ north, Northing letter north ∧ degrees = signed north value := by
  constructor
  · intro found
    unfold latitude at found
    split at found
    · exact ⟨true, .north, (Option.some.inj found).symm⟩
    · exact ⟨false, .south, (Option.some.inj found).symm⟩
    · cases found
  · rintro ⟨north, northing, rfl⟩
    cases northing <;> rfl

theorem longitude_eq_some {degrees : Float} :
    longitude letter value = some degrees ↔
      ∃ east, Easting letter east ∧ degrees = signed east value := by
  constructor
  · intro found
    unfold longitude at found
    split at found
    · exact ⟨true, .east, (Option.some.inj found).symm⟩
    · exact ⟨false, .west, (Option.some.inj found).symm⟩
    · cases found
  · rintro ⟨east, easting, rfl⟩
    cases easting <;> rfl

/-- A letter is no digit. -/
theorem Quadrant.not_isDigit {north east : Bool} (quadrant : Quadrant letter north east) :
    letter.isDigit = false := by
  cases quadrant <;> rfl

theorem Northing.not_isDigit {north : Bool} (northing : Northing letter north) :
    letter.isDigit = false := by
  cases northing <;> rfl

/-- A number ends before the letter of a longitude. -/
theorem Easting.ends {east : Bool} (easting : Easting letter east) :
    letter.isDigit = false ∧ letter ≠ '.' := by
  cases easting <;> decide

/-! ### Numbers -/

theorem isNumber_iff {characters : List Char} :
    isNumber characters = true ↔
      characters ≠ [] ∧ ∀ digit ∈ characters, digit.isDigit = true := by
  simp [isNumber]

/-- The text behind a number does not go on with it. -/
def Ends (rest : List Char) : Prop := ∀ next ∈ rest.head?, next.isDigit = false ∧ next ≠ '.'

variable {most : Nat} {digits rest : List Char}

/-- A number that is read stands in front of the rest. -/
theorem numeral_of_leadingDecimal? {characters : List Char}
    (found : leadingDecimal? most characters = some (value, rest)) :
    ∃ front, characters = front ++ rest ∧ Numeral most front value := by
  unfold leadingDecimal? at found
  have whole : characters.takeWhile Char.isDigit ++ characters.dropWhile Char.isDigit = characters :=
    List.takeWhile_append_dropWhile
  have numeric : ∀ digit ∈ characters.takeWhile Char.isDigit, digit.isDigit = true :=
    fun digit member => List.mem_takeWhile_imp member
  generalize characters.takeWhile Char.isDigit = digits at found whole numeric
  by_cases refused : (digits.isEmpty || decide (most < digits.length)) = true
  · simp [refused] at found
  · obtain ⟨nonempty, short⟩ : digits ≠ [] ∧ digits.length ≤ most := by simpa using refused
    rw [if_neg refused] at found
    split at found
    · rename_i behind point
      have more : behind.takeWhile Char.isDigit ++ behind.dropWhile Char.isDigit = behind :=
        List.takeWhile_append_dropWhile
      have places : ∀ digit ∈ behind.takeWhile Char.isDigit, digit.isDigit = true :=
        fun digit member => List.mem_takeWhile_imp member
      generalize behind.takeWhile Char.isDigit = fraction at found more places
      by_cases empty : fraction = []
      · simp [empty] at found
      · rw [if_neg (by simpa using empty)] at found
        cases found
        refine ⟨digits ++ '.' :: fraction, ?_, .point nonempty short numeric empty places⟩
        rw [List.append_assoc, List.cons_append, more, ← point, whole]
    · cases found
      exact ⟨digits, whole.symm, .whole nonempty short numeric⟩

/-- **A number at the front of a text** is read up to its end. -/
theorem leadingDecimal?_eq_some {front : List Char} (numeral : Numeral most front value)
    (ends : Ends rest) : leadingDecimal? most (front ++ rest) = some (value, rest) := by
  have stops : ∀ next ∈ rest.head?, next.isDigit = false := fun next here => (ends next here).1
  unfold leadingDecimal?
  cases numeral with
  | whole nonempty short numeric =>
    rw [takeWhile_run numeric stops, dropWhile_run numeric stops,
      if_neg (by simp [nonempty, short])]
    split
    · exact absurd rfl (ends '.' rfl).2
    · rfl
  | @point digits places nonempty short numeric written decimals =>
    have point : ∀ next ∈ ('.' :: places ++ rest).head?, next.isDigit = false := by
      simp
    rw [List.append_assoc, takeWhile_run numeric point, dropWhile_run numeric point,
      if_neg (by simp [nonempty, short])]
    show (if ((places ++ rest).takeWhile Char.isDigit).isEmpty then none
      else some (decimal digits ((places ++ rest).takeWhile Char.isDigit),
        (places ++ rest).dropWhile Char.isDigit)) = _
    rw [takeWhile_run decimals stops, dropWhile_run decimals stops, if_neg (by simp [written])]

/-! ### Shapes -/

/-- The reader of a shape. -/
def Shape.read? : Shape → List Char → Option Position
  | .trailingLetter => trailingLetter?
  | .middleLetter => middleLetter?
  | .wholeDegrees => wholeDegrees?
  | .decimalDegrees => decimalDegrees?

variable {characters : List Char}

theorem trailingLetter?_eq_some :
    trailingLetter? characters = some position ↔
      Shape.trailingLetter.Denotes characters position := by
  constructor
  · intro found
    unfold trailingLetter? at found
    split at found
    · rename_i a b c d letter
      by_cases numeric : isNumber [a, b, c, d] = true
      · rw [if_pos numeric] at found
        obtain ⟨north, east, quadrant, rfl⟩ := inQuadrant_eq_some.mp found
        exact .trailingLetter (isNumber_iff.mp numeric).2 quadrant
      · simp [numeric] at found
    · cases found
  · intro denotes
    cases denotes with
    | trailingLetter numeric quadrant =>
      rw [trailingLetter?, if_pos (isNumber_iff.mpr ⟨List.cons_ne_nil _ _, numeric⟩)]
      exact inQuadrant_eq_some.mpr ⟨_, _, quadrant, rfl⟩

theorem middleLetter?_eq_some :
    middleLetter? characters = some position ↔ Shape.middleLetter.Denotes characters position := by
  constructor
  · intro found
    unfold middleLetter? at found
    split at found
    · rename_i a b letter c d
      by_cases numeric : isNumber [a, b, c, d] = true
      · rw [if_pos numeric] at found
        obtain ⟨north, east, quadrant, rfl⟩ := inQuadrant_eq_some.mp found
        exact .middleLetter (isNumber_iff.mp numeric).2 quadrant
      · simp [numeric] at found
    · cases found
  · intro denotes
    cases denotes with
    | middleLetter numeric quadrant =>
      rw [middleLetter?, if_pos (isNumber_iff.mpr ⟨List.cons_ne_nil _ _, numeric⟩)]
      exact inQuadrant_eq_some.mpr ⟨_, _, quadrant, rfl⟩

theorem wholeDegrees?_eq_some :
    wholeDegrees? characters = some position ↔ Shape.wholeDegrees.Denotes characters position := by
  constructor
  · intro found
    unfold wholeDegrees? at found
    split at found
    · rename_i north a b east c d e
      by_cases numeric : isNumber [a, b, c, d, e] = true
      · rw [if_pos numeric] at found
        split at found
        · rename_i lat lon northward eastward
          cases found
          obtain ⟨_, northing, rfl⟩ := latitude_eq_some.mp northward
          obtain ⟨_, easting, rfl⟩ := longitude_eq_some.mp eastward
          exact .wholeDegrees (isNumber_iff.mp numeric).2 northing easting
        · cases found
      · simp [numeric] at found
    · cases found
  · intro denotes
    cases denotes with
    | wholeDegrees numeric northing easting =>
      rw [wholeDegrees?, if_pos (isNumber_iff.mpr ⟨List.cons_ne_nil _ _, numeric⟩),
        latitude_eq_some.mpr ⟨_, northing, rfl⟩, longitude_eq_some.mpr ⟨_, easting, rfl⟩]

theorem decimalDegrees?_eq_some :
    decimalDegrees? characters = some position ↔
      Shape.decimalDegrees.Denotes characters position := by
  constructor
  · intro found
    unfold decimalDegrees? at found
    split at found
    · rename_i north text
      obtain ⟨⟨lat, behind⟩, front, found⟩ := Option.bind_eq_some_iff.mp found
      obtain ⟨degrees, northward, found⟩ := Option.bind_eq_some_iff.mp found
      obtain ⟨digits, rfl, numeral⟩ := numeral_of_leadingDecimal? front
      obtain ⟨_, northing, rfl⟩ := latitude_eq_some.mp northward
      dsimp only at found
      split at found
      · rename_i east text
        obtain ⟨⟨lon, rest⟩, back, found⟩ := Option.bind_eq_some_iff.mp found
        obtain ⟨_, eastward, found⟩ := Option.bind_eq_some_iff.mp found
        obtain ⟨places, rfl, numeral'⟩ := numeral_of_leadingDecimal? back
        obtain ⟨_, easting, rfl⟩ := longitude_eq_some.mp eastward
        cases rest with
        | nil =>
          cases found
          rw [List.append_nil]
          exact .decimalDegrees northing numeral easting numeral'
        | cons next more => cases found
      · cases found
    · cases found
  · intro denotes
    cases denotes with
    | @decimalDegrees _ longitude _ _ _ back _ _ northing front easting behind =>
      have inside : Ends (longitude :: back) := by
        rintro next ⟨⟩
        exact easting.ends
      have ended : Ends [] := nofun
      have last := leadingDecimal?_eq_some behind ended
      rw [List.append_nil] at last
      rw [List.cons_append, decimalDegrees?, leadingDecimal?_eq_some front inside]
      simp [latitude_eq_some.mpr ⟨_, northing, rfl⟩, longitude_eq_some.mpr ⟨_, easting, rfl⟩, last]

/-- **Every shape is read as it is written.** -/
theorem Shape.read?_eq_some (shape : Shape) :
    shape.read? characters = some position ↔ shape.Denotes characters position := by
  cases shape with
  | trailingLetter => exact trailingLetter?_eq_some
  | middleLetter => exact middleLetter?_eq_some
  | wholeDegrees => exact wholeDegrees?_eq_some
  | decimalDegrees => exact decimalDegrees?_eq_some

/-! ### One position for one word -/

/-- Whole degrees are decimal degrees without a fraction. -/
theorem Shape.Denotes.decimal (denotes : Shape.wholeDegrees.Denotes characters position) :
    Shape.decimalDegrees.Denotes characters position := by
  cases denotes with
  | @wholeDegrees a b c d e _ _ _ _ numeric northing easting =>
    have front : Numeral 2 [a, b] (Text.Digits.decimal [a, b] []) :=
      .whole (List.cons_ne_nil _ _) le_rfl fun digit member =>
        numeric digit (List.mem_append_left [c, d, e] member)
    have back : Numeral 3 [c, d, e] (Text.Digits.decimal [c, d, e] []) :=
      .whole (List.cons_ne_nil _ _) le_rfl fun digit member =>
        numeric digit (List.mem_append_right [a, b] member)
    exact .decimalDegrees northing front easting back

/-- The shape that takes in all words of a shape. -/
def Shape.general : Shape → Shape
  | .wholeDegrees => .decimalDegrees
  | shape => shape

theorem Shape.Denotes.general {shape : Shape} (denotes : shape.Denotes characters position) :
    shape.general.Denotes characters position := by
  cases shape with
  | wholeDegrees => exact denotes.decimal
  | _ => exact denotes

/-- The general shape of a word: the places of its letters tell the shapes apart. -/
def shapeOf (characters : List Char) : Shape :=
  if characters.head?.any Char.isDigit then
    if characters[2]?.any Char.isDigit then .trailingLetter else .middleLetter
  else .decimalDegrees

theorem Shape.Denotes.general_eq {shape : Shape} (denotes : shape.Denotes characters position) :
    shape.general = shapeOf characters := by
  cases denotes with
  | trailingLetter numeric _ => simp_all [shapeOf, Shape.general]
  | middleLetter numeric quadrant => simp_all [shapeOf, Shape.general, quadrant.not_isDigit]
  | wholeDegrees _ northing _ => simp [shapeOf, Shape.general, northing.not_isDigit]
  | decimalDegrees northing _ _ _ => simp [shapeOf, Shape.general, northing.not_isDigit]

/-- **A word denotes one position at most**, in whichever shapes. -/
theorem Shape.Denotes.unique {shape other : Shape} {also : Position}
    (denotes : shape.Denotes characters position) (again : other.Denotes characters also) :
    position = also := by
  have same : shape.general = other.general := denotes.general_eq.trans again.general_eq.symm
  have first := (Shape.read?_eq_some _).mpr denotes.general
  have second := (Shape.read?_eq_some _).mpr again.general
  rw [same, second] at first
  exact (Option.some.inj first).symm

/-- The shapes in the order in which they are tried. -/
def shapes : List Shape := [.trailingLetter, .middleLetter, .wholeDegrees, .decimalDegrees]

theorem mem_shapes (shape : Shape) : shape ∈ shapes := by
  cases shape <;> simp [shapes]

theorem shaped?_eq (word : String) :
    shaped? word = shapes.findSome? (·.read? word.toList) := by
  simp only [shaped?, shapes, List.findSome?, Shape.read?]
  cases trailingLetter? word.toList <;> cases middleLetter? word.toList <;>
    cases wholeDegrees? word.toList <;> cases decimalDegrees? word.toList <;> rfl

/-- Whichever shape is found first, the position is the same. -/
theorem findSome?_read?_eq_some {order : List Shape} (all : ∀ shape, shape ∈ order) :
    order.findSome? (·.read? characters) = some position ↔
      ∃ shape : Shape, shape.Denotes characters position := by
  constructor
  · intro found
    obtain ⟨shape, _, read⟩ := List.exists_of_findSome?_eq_some found
    exact ⟨shape, shape.read?_eq_some.mp read⟩
  · rintro ⟨shape, denotes⟩
    have found : (order.findSome? (·.read? characters)).isSome := by
      rw [List.findSome?_isSome_iff]
      exact ⟨shape, all shape, by rw [shape.read?_eq_some.mpr denotes]; rfl⟩
    obtain ⟨first, here⟩ := Option.isSome_iff_exists.mp found
    obtain ⟨other, _, read⟩ := List.exists_of_findSome?_eq_some here
    rw [here, (other.read?_eq_some.mp read).unique denotes]

/-- **The order in which the shapes are tried** does not matter. -/
theorem shaped?_eq_findSome? {order : List Shape} (all : ∀ shape, shape ∈ order) (word : String) :
    shaped? word = order.findSome? (·.read? word.toList) := by
  ext position
  rw [shaped?_eq, findSome?_read?_eq_some mem_shapes, findSome?_read?_eq_some all]

theorem shaped?_eq_some {word : String} :
    shaped? word = some position ↔ ∃ shape : Shape, shape.Denotes word.toList position := by
  rw [shaped?_eq, findSome?_read?_eq_some mem_shapes]

/-! ### What a word is taken for -/

theorem onGlobe_iff :
    position.onGlobe = true ↔ position.lat.abs ≤ 90.0 ∧ position.lon.abs ≤ 180.0 := by
  simp [onGlobe]

variable {word : String}

theorem parse_eq_some :
    parse word = .ok (some position) ↔
      (∃ shape : Shape, shape.Denotes word.toList position) ∧ position.onGlobe = true := by
  rw [← shaped?_eq_some]
  unfold parse
  cases shaped? word with
  | none => simp
  | some found =>
    by_cases inside : found.onGlobe = true
    · simp only [if_pos inside, Except.ok.injEq, Option.some.injEq]
      constructor
      · rintro rfl
        exact ⟨rfl, inside⟩
      · exact And.left
    · simp only [if_neg inside, reduceCtorEq, false_iff, not_and, Option.some.injEq]
      rintro rfl
      exact inside

theorem parse_eq_error {failure : RouteError} :
    parse word = .error failure ↔ failure = .grammar (.coordinateOutOfRange word) ∧
      ∃ (shape : Shape) (position : Position), shape.Denotes word.toList position ∧
        ¬position.onGlobe = true := by
  rw [exists_comm]
  simp only [exists_and_right, ← shaped?_eq_some]
  unfold parse
  cases shaped? word with
  | none => simp
  | some found =>
    by_cases inside : found.onGlobe = true
    · simp [inside]
    · simp only [if_neg inside, Except.error.injEq]
      constructor
      · rintro rfl
        exact ⟨rfl, found, rfl, inside⟩
      · exact fun refused => refused.1.symm

theorem parse_eq_none :
    parse word = .ok none ↔
      ∀ (shape : Shape) (position : Position), ¬shape.Denotes word.toList position := by
  rw [forall_comm]
  simp only [← not_exists, ← shaped?_eq_some]
  unfold parse
  cases shaped? word with
  | none => simp
  | some found =>
    by_cases inside : found.onGlobe = true
    · simp [inside]
    · simp [inside]

/-- **Literal coordinates are read exactly as they are written.** A word is taken for a position when it
denotes one in some shape and that one is on the globe; it is an error that names the word when it denotes one
off the globe; and it is no coordinate when it has no shape. It denotes one position at most: what is written in
whole degrees denotes the same in decimal degrees, and in whichever order the shapes are tried the answer is the
same. -/
theorem parse_exact (word : String) :
    (∀ position, parse word = .ok (some position) ↔
        (∃ shape : Shape, shape.Denotes word.toList position) ∧
          position.lat.abs ≤ 90.0 ∧ position.lon.abs ≤ 180.0) ∧
      (∀ failure, parse word = .error failure ↔
        failure = .grammar (.coordinateOutOfRange word) ∧
          ∃ (shape : Shape) (position : Position), shape.Denotes word.toList position ∧
            ¬(position.lat.abs ≤ 90.0 ∧ position.lon.abs ≤ 180.0)) ∧
      (parse word = .ok none ↔
        ∀ (shape : Shape) (position : Position), ¬shape.Denotes word.toList position) ∧
      (∀ (shape other : Shape) (position also : Position), shape.Denotes word.toList position →
        other.Denotes word.toList also → position = also) ∧
      (∀ position, Shape.wholeDegrees.Denotes word.toList position →
        Shape.decimalDegrees.Denotes word.toList position) ∧
      ∀ order : List Shape, (∀ shape, shape ∈ order) →
        order.findSome? (·.read? word.toList) = shaped? word := by
  simp only [← onGlobe_iff]
  exact ⟨fun _ => parse_eq_some, fun _ => parse_eq_error, parse_eq_none,
    fun _ _ _ _ denotes again => denotes.unique again, fun _ denotes => denotes.decimal,
    fun _ all => (shaped?_eq_findSome? all word).symm⟩

end FlightRoute.Position
