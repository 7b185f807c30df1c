/-
**Whole degrees in exact numbers.**

Three of the four shapes of a literal coordinate have no point: their digits spell whole numbers, which
are floats. So the grammar can be said once more in exact numbers (`Shape.Spells`), and the position
that such a word denotes stands at just these degrees, with nothing rounded.

* `value_lt`: what a run of digits can denote at most;
* `Shape.Spells.denotes`: the position of a word of whole degrees;
* `parse_whole`: what such a word is taken for.
-/

import Mathlib.Data.List.Induction
import Mathlib.Data.Nat.Cast.Order.Ring
import FlightRoute.Proofs.Coordinate
import FlightRoute.Proofs.Distance.Whole

namespace FlightRoute

open Text.Digits

/-! ### Digits -/

namespace Text.Digits

variable {digits : List Char}

theorem value_append (digits : List Char) (digit : Char) :
    value (digits ++ [digit]) = 10 * value digits + (digit.toNat - 48) := by
  unfold value
  rw [List.foldl_append]
  rfl

/-- **What a run of digits can denote at most.** -/
theorem value_lt (numeric : ∀ digit ∈ digits, digit.isDigit = true) :
    value digits < 10 ^ digits.length := by
  induction digits using List.reverseRecOn with
  | nil => exact Nat.one_pos
  | append_singleton digits digit ih =>
    have front := ih fun other member => numeric other (List.mem_append_left _ member)
    have last : digit.toNat ≤ 57 := by
      have isDigit := numeric digit (List.mem_append_right _ (List.mem_singleton_self digit))
      rw [Char.isDigit, Bool.and_eq_true, decide_eq_true_iff, decide_eq_true_iff] at isDigit
      exact isDigit.2
    rw [value_append, List.length_append, List.length_singleton, Nat.pow_succ]
    omega

end Text.Digits

namespace Position

open Distance
open Float.Model (UnpackedFloat)
open Float.Model.UnpackedFloat (pack unpack)

/-! ### Sides of zero -/

/-- A number on one side of zero or the other. -/
def side (positive : Bool) (number : ℚ) : ℚ := if positive then number else -number

theorem degrees_signed (positive : Bool) (x : Float) :
    degrees (signed positive x) = side positive (degrees x) := by
  cases positive with
  | true => rfl
  | false => exact degrees_neg x

/-- Up to fifteen digits are a whole number that is a float. -/
theorem isWhole_digits {digits : List Char} (numeric : ∀ digit ∈ digits, digit.isDigit = true)
    (short : digits.length ≤ 15) : IsWhole (decimal digits []) (value digits) := by
  refine isWhole_decimal (Nat.lt_of_lt_of_le (value_lt numeric) ?_)
  exact (Nat.pow_le_pow_right (by decide) short).trans (by decide)

theorem isWhole_abs_signed {x : Float} {n : Nat} (whole : IsWhole x n) (positive : Bool) :
    IsWhole (signed positive x).abs n := by
  have opposite : (signed positive x).toModel.unpack.abs = x.toModel.unpack.abs := by
    cases positive with
    | true => rfl
    | false =>
      show (-x).toModel.unpack.abs = _
      rw [unpack_neg]
      cases x.toModel.unpack <;> rfl
  have kept : (UnpackedFloat.ofNat .binary64 n).abs = .ofNat .binary64 n := by
    rcases Nat.eq_zero_or_pos n with rfl | above
    · rfl
    · rw [ofNat_eq above whole.small]
      rfl
  refine ⟨?_, whole.small⟩
  show unpack .binary64 (pack .binary64 (signed positive x).toModel.unpack.abs) = _
  rw [opposite, whole.unpacked, kept, unpack_pack_ofNat whole.small]

theorem abs_side (positive : Bool) (n : Nat) : |side positive n| = n := by
  cases positive with
  | true => exact abs_of_nonneg (Nat.cast_nonneg n)
  | false => exact (abs_neg _).trans (abs_of_nonneg (Nat.cast_nonneg n))

/-! ### Words -/

/-- The degrees that a word without a point spells, counted to the north and to the east. -/
inductive Shape.Spells : Shape → List Char → ℚ → ℚ → Prop
  | trailingLetter {a b c d letter : Char} {north east : Bool} :
      (∀ digit ∈ [a, b, c, d], digit.isDigit = true) → Quadrant letter north east →
      Spells .trailingLetter [a, b, c, d, letter] (side north (value [a, b]))
        (side east (value [c, d]))
  | middleLetter {a b c d letter : Char} {north east : Bool} :
      (∀ digit ∈ [a, b, c, d], digit.isDigit = true) → Quadrant letter north east →
      Spells .middleLetter [a, b, letter, c, d] (side north (value [a, b]))
        (side east (value [c, d] + 100 : Nat))
  | wholeDegrees {a b c d e latitude longitude : Char} {north east : Bool} :
      (∀ digit ∈ [a, b, c, d, e], digit.isDigit = true) → Northing latitude north →
      Easting longitude east →
      Spells .wholeDegrees [latitude, a, b, longitude, c, d, e] (side north (value [a, b]))
        (side east (value [c, d, e]))

variable {shape : Shape} {characters : List Char} {lat lon : ℚ}

/-- A word of whole degrees denotes two whole numbers, each on its side of zero. -/
theorem Shape.Spells.whole (spells : shape.Spells characters lat lon) :
    ∃ (north east : Bool) (x y : Float) (m n : Nat), IsWhole x m ∧ IsWhole y n ∧
      lat = side north m ∧ lon = side east n ∧
      shape.Denotes characters ⟨signed north x, signed east y⟩ := by
  cases spells with
  | @trailingLetter a b c d _ north east numeric quadrant =>
    have split : ∀ digit ∈ [a, b] ++ [c, d], digit.isDigit = true := numeric
    obtain ⟨front, back⟩ := List.forall_mem_append.mp split
    have latitude : IsWhole (decimal [a, b] []) (value [a, b]) := isWhole_digits front (by simp)
    have longitude : IsWhole (decimal [c, d] []) (value [c, d]) := isWhole_digits back (by simp)
    exact ⟨north, east, _, _, _, _, latitude, longitude, rfl, rfl,
      .trailingLetter numeric quadrant⟩
  | @middleLetter a b c d _ north east numeric quadrant =>
    have split : ∀ digit ∈ [a, b] ++ [c, d], digit.isDigit = true := numeric
    obtain ⟨front, back⟩ := List.forall_mem_append.mp split
    have latitude : IsWhole (decimal [a, b] []) (value [a, b]) := isWhole_digits front (by simp)
    have longitude : IsWhole (decimal [c, d] []) (value [c, d]) := isWhole_digits back (by simp)
    have hundred : IsWhole 100.0 100 := ⟨rfl, by decide⟩
    have small : value [c, d] < 10 ^ 2 := value_lt back
    have beyond : IsWhole (decimal [c, d] [] + 100.0) (value [c, d] + 100) :=
      longitude.add hundred (by omega)
    exact ⟨north, east, _, _, _, _, latitude, beyond, rfl, rfl, .middleLetter numeric quadrant⟩
  | @wholeDegrees a b c d e _ _ north east numeric northing easting =>
    have split : ∀ digit ∈ [a, b] ++ [c, d, e], digit.isDigit = true := numeric
    obtain ⟨front, back⟩ := List.forall_mem_append.mp split
    have latitude : IsWhole (decimal [a, b] []) (value [a, b]) := isWhole_digits front (by simp)
    have longitude : IsWhole (decimal [c, d, e] []) (value [c, d, e]) :=
      isWhole_digits back (by simp)
    exact ⟨north, east, _, _, _, _, latitude, longitude, rfl, rfl,
      .wholeDegrees numeric northing easting⟩

/-- **A word of whole degrees** denotes the position at the degrees that it spells, which is on the
globe when they are in range. -/
theorem Shape.Spells.denotes (spells : shape.Spells characters lat lon) :
    ∃ position, shape.Denotes characters position ∧ degrees position.lat = lat ∧
      degrees position.lon = lon ∧ (position.onGlobe = true ↔ |lat| ≤ 90 ∧ |lon| ≤ 180) := by
  obtain ⟨north, east, x, y, m, n, first, second, rfl, rfl, denotes⟩ := spells.whole
  have ninety : IsWhole 90.0 90 := ⟨rfl, by decide⟩
  have halfTurn : IsWhole 180.0 180 := ⟨rfl, by decide⟩
  refine ⟨_, denotes, ?_, ?_, ?_⟩
  · rw [degrees_signed, first.degrees_eq]
  · rw [degrees_signed, second.degrees_eq]
  · rw [onGlobe_iff, (isWhole_abs_signed first north).le_iff ninety,
      (isWhole_abs_signed second east).le_iff halfTurn, abs_side, abs_side]
    exact and_congr Nat.cast_le_ofNat.symm Nat.cast_le_ofNat.symm

/-- **What a word of whole degrees is taken for**: the position at these degrees, or an error when
they are out of range. -/
theorem parse_whole {word : String} (spells : shape.Spells word.toList lat lon) :
    (|lat| ≤ 90 ∧ |lon| ≤ 180 → ∃ position, parse word = .ok (some position) ∧
        degrees position.lat = lat ∧ degrees position.lon = lon) ∧
      (¬(|lat| ≤ 90 ∧ |lon| ≤ 180) →
        parse word = .error (.grammar (.coordinateOutOfRange word))) := by
  obtain ⟨position, denotes, north, east, inside⟩ := spells.denotes
  constructor
  · intro inRange
    exact ⟨position, parse_eq_some.mpr ⟨⟨shape, denotes⟩, inside.mpr inRange⟩, north, east⟩
  · intro outOfRange
    have outside : ¬position.onGlobe = true := fun fits => outOfRange (inside.mp fits)
    exact parse_eq_error.mpr ⟨rfl, shape, position, denotes, outside⟩

end Position

end FlightRoute
