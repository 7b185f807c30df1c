/-
**What is written is cut into lexemes again.**

A text is written between quotes with its quotes, backslashes and control characters escaped, and read back
character by character. A number or a bare word ends where a character follows that can belong to neither
(`Fresh`); every other lexeme ends by itself. Blanks are passed over.

* `readText_escape`, `readText_quoted`: a text between quotes;
* `Numeral.ofChars?_numeric`: what a number is made of;
* `Lexes`: characters that are cut into lexemes, whatever fresh characters follow;
* `Lexes.mark`, `Lexes.blank`, `Lexes.text`, `Lexes.word`, `Lexes.numeral`: lexeme by lexeme;
* `Lexes.append`, `Lexes.stacked`: one after the other, and between brackets;
* `Lexes.lexemes`: whole texts.
-/

import FlightRoute.Json.Printer
import FlightRoute.Json.Reader
import Mathlib.Data.List.Forall2
import Mathlib.Data.List.TakeWhile

namespace FlightRoute.Json

/-! ### Texts between quotes -/

/-- A hexadecimal digit is read as what it was written for. -/
theorem hexDigit?_digitChar : ∀ digit < 16, hexDigit? (Nat.digitChar digit) = some digit := by decide

/-- Two digits behind two zeros. -/
theorem hexUnit?_digits {code : Nat} (small : code < 256) :
    hexUnit? '0' '0' (Nat.digitChar (code / 16)) (Nat.digitChar (code % 16)) = some code := by
  unfold hexUnit?
  rw [hexDigit?_digitChar _ (by omega), hexDigit?_digitChar _ (by omega),
    show hexDigit? '0' = some 0 by decide]
  show some ((0 * 16 + 0) * 256 + (code / 16 * 16 + code % 16)) = some code
  congr 1
  omega

theorem PartialText.pushUnit_of_lt {part : PartialText} {code : Nat} (low : code < 0xd800) :
    part.pushUnit code = part.push (Char.ofNat code) := by
  unfold pushUnit
  rw [if_neg (by omega), if_neg (by omega)]

/-- **An escaped character** is read as itself. -/
theorem readText_escape (part : PartialText) (c : Char) (rest : List Char) :
    readText part ((escape c).toList ++ rest) = readText (part.push c) rest := by
  unfold escape
  split
  · rfl
  · rfl
  · rfl
  · rfl
  · rfl
  · rfl
  · rfl
  · rename_i noQuote noBackslash _ _ _ _ _
    split
    · rename_i control
      have code : hexUnit? '0' '0' (Nat.digitChar (c.toNat / 16)) (Nat.digitChar (c.toNat % 16)) =
          some c.toNat := hexUnit?_digits (by omega)
      rw [String.toList_append, String.toList_ofList, String.toList_ofList]
      show readText part ('\\' :: 'u' :: '0' :: '0' :: Nat.digitChar (c.toNat / 16) ::
        Nat.digitChar (c.toNat % 16) :: rest) = _
      rw [readText, code]
      dsimp only
      rw [PartialText.pushUnit_of_lt (by omega), Char.ofNat_toNat]
    · rename_i printable
      rw [Char.toString_eq_singleton, String.toList_singleton]
      show readText part (c :: rest) = _
      rw [readText, if_neg printable]
      · exact noQuote
      · exact fun _ _ _ _ _ backslash => absurd backslash noBackslash
      · exact fun _ _ backslash => absurd backslash noBackslash

/-- **A text between quotes** is read as the text. -/
theorem readText_quoted (text : String) (rest : List Char) :
    readText ⟨[], none, true⟩ (text.toList.flatMap (fun c => (escape c).toList) ++ '"' :: rest) =
      some (some text, rest) := by
  have pushed : ∀ (characters before : List Char),
      readText ⟨before, none, true⟩ (characters.flatMap (fun c => (escape c).toList) ++ '"' :: rest) =
        some (some (String.ofList (before.reverse ++ characters)), rest) := by
    intro characters
    induction characters with
    | nil =>
      intro before
      rw [List.append_nil]
      rfl
    | cons c others ih =>
      intro before
      rw [List.flatMap_cons, List.append_assoc, readText_escape]
      show readText ⟨c :: before, none, true⟩ _ = _
      rw [ih (c :: before), List.reverse_cons, List.append_assoc]
      rfl
  rw [pushed text.toList [], List.reverse_nil, List.nil_append, String.ofList_toList]

/-! ### Numerals -/

namespace Numeral

theorem isNumeric_of_isDigit {c : Char} (digit : c.isDigit = true) : isNumeric c = true := by
  simp [isNumeric, digit]

theorem exponent?_numeric {characters : List Char} {exponent : Int}
    (read : exponent? characters = some exponent) : ∀ c ∈ characters, isNumeric c = true := by
  have digits : ∀ run : List Char, Text.Digits.isNumber run = true → ∀ c ∈ run, isNumeric c = true := by
    intro run number c member
    have all := (Bool.and_eq_true_iff.mp number).2
    exact isNumeric_of_isDigit (List.all_eq_true.mp all c member)
  unfold exponent? at read
  split at read
  rename_i negative run signed
  split at read
  · rename_i number
    split at signed
    · cases signed
      exact List.forall_mem_cons.mpr ⟨rfl, digits _ number⟩
    · cases signed
      exact List.forall_mem_cons.mpr ⟨rfl, digits _ number⟩
    · cases signed
      exact digits _ number
  · cases read

/-- What is behind the digits of a numeral, when there is something. -/
theorem marked_numeric {mark : Char} {rest : List Char} {build : Int → Numeral} {numeral : Numeral}
    (letter : (mark == 'e' || mark == 'E') = true)
    (read : (exponent? rest).map build = some numeral) : ∀ c ∈ mark :: rest, isNumeric c = true := by
  obtain ⟨exponent, read, _⟩ := Option.map_eq_some_iff.mp read
  refine List.forall_mem_cons.mpr ⟨?_, exponent?_numeric read⟩
  rcases Bool.or_eq_true_iff.mp letter with same | same
  · rw [beq_iff_eq.mp same]
    rfl
  · rw [beq_iff_eq.mp same]
    rfl

theorem takeWhile_numeric (characters : List Char) :
    ∀ c ∈ characters.takeWhile Char.isDigit, isNumeric c = true :=
  fun _ member => isNumeric_of_isDigit (List.mem_takeWhile_imp member)

/-- **A numeral** begins with a digit or a sign, and holds nothing but what belongs to numbers. -/
theorem ofChars?_numeric {characters : List Char} {numeral : Numeral}
    (spelled : ofChars? characters = some numeral) :
    ∃ c first, characters = c :: first ∧ (c.isDigit || c == '-') = true ∧
      ∀ c ∈ first, isNumeric c = true := by
  unfold ofChars? at spelled
  split at spelled
  rename_i negative body signed
  simp only [Option.bind_eq_bind] at spelled
  split at spelled
  · cases spelled
  rename_i whole
  rw [Bool.not_eq_true, Bool.or_eq_false_iff] at whole
  have numeric : ∀ c ∈ body, isNumeric c = true := by
    rw [← List.takeWhile_append_dropWhile (p := Char.isDigit) (l := body)]
    refine List.forall_mem_append.mpr ⟨takeWhile_numeric body, ?_⟩
    split at spelled
    · rename_i rest point
      rw [point, ← List.takeWhile_append_dropWhile (p := Char.isDigit) (l := rest)]
      refine List.forall_mem_cons.mpr ⟨rfl, List.forall_mem_append.mpr ⟨takeWhile_numeric rest, ?_⟩⟩
      split at spelled
      · cases spelled
      · rw [Option.bind_some] at spelled
        generalize rest.dropWhile Char.isDigit = behind at spelled ⊢
        cases behind with
        | nil => exact List.forall_mem_nil _
        | cons mark rest =>
          dsimp only at spelled
          split at spelled
          · rename_i letter
            exact marked_numeric letter spelled
          · cases spelled
    · rw [Option.bind_some] at spelled
      generalize body.dropWhile Char.isDigit = behind at spelled ⊢
      cases behind with
      | nil => exact List.forall_mem_nil _
      | cons mark rest =>
        dsimp only at spelled
        split at spelled
        · rename_i letter
          exact marked_numeric letter spelled
        · cases spelled
  obtain ⟨c, first, rfl, digit⟩ : ∃ c first, body = c :: first ∧ c.isDigit = true := by
    cases body with
    | nil => cases whole.1
    | cons c first =>
      refine ⟨c, first, rfl, ?_⟩
      by_contra other
      rw [List.takeWhile_cons_of_neg other] at whole
      cases whole.1
  split at signed
  · cases signed
    exact ⟨'-', _, rfl, rfl, numeric⟩
  · cases signed
    exact ⟨c, first, rfl, by rw [digit, Bool.true_or], (List.forall_mem_cons.mp numeric).2⟩

end Numeral

/-! ### Lexeme by lexeme -/

/-- What follows belongs to no number and to no bare word. -/
def Fresh (characters : List Char) : Prop :=
  ∀ c, characters.head? = some c → isNumeric c = false ∧ c.isAlpha = false

theorem Fresh.nil : Fresh [] := nofun

theorem Fresh.cons {c : Char} (noNumber : isNumeric c = false) (noLetter : c.isAlpha = false)
    (rest : List Char) : Fresh (c :: rest) := by
  rintro first ⟨⟩
  exact ⟨noNumber, noLetter⟩

theorem Fresh.append {first second : List Char} (fresh : Fresh first) (behind : Fresh second) :
    Fresh (first ++ second) := by
  cases first with
  | nil => exact behind
  | cons c rest => exact fun other same => fresh other same

/-- Characters that are cut into lexemes, in no more steps than they are, when fresh ones follow. -/
def Lexes (characters : List Char) (found : List Lexeme) : Prop :=
  ∃ cost ≤ characters.length, ∀ steps before rest, Fresh rest →
    lexemesAfter (cost + steps) before (characters ++ rest) =
      lexemesAfter steps (found.reverse ++ before) rest

namespace Lexes

variable {characters others : List Char} {found further : List Lexeme} {c : Char}

theorem nil : Lexes [] [] := ⟨0, Nat.le_refl _, fun steps _ _ _ => by rw [Nat.zero_add]; rfl⟩

/-- **One after the other**, when the second begins fresh. -/
theorem append (first : Lexes characters found) (second : Lexes others further) (fresh : Fresh others) :
    Lexes (characters ++ others) (found ++ further) := by
  obtain ⟨cost, few, cut⟩ := first
  obtain ⟨more, fewer, cuts⟩ := second
  refine ⟨cost + more, ?_, fun steps before rest behind => ?_⟩
  · rw [List.length_append]
    exact Nat.add_le_add few fewer
  · rw [List.append_assoc, Nat.add_assoc, cut _ _ _ (fresh.append behind), cuts _ _ _ behind,
      List.reverse_append, List.append_assoc]

/-- A lexeme that ends by itself in front. -/
theorem cons (first : List Char) (lexeme : List Lexeme) (positive : 0 < first.length)
    (cut : ∀ steps before rest, lexemesAfter (steps + 1) before (first ++ rest) =
      lexemesAfter steps (lexeme.reverse ++ before) rest)
    (rest : Lexes characters found) : Lexes (first ++ characters) (lexeme ++ found) := by
  obtain ⟨cost, few, cuts⟩ := rest
  refine ⟨cost + 1, ?_, fun steps before behind fresh => ?_⟩
  · rw [List.length_append]
    omega
  · rw [List.append_assoc, Nat.add_right_comm, cut, cuts _ _ _ fresh, List.reverse_append,
      List.append_assoc]

/-- A blank in front. -/
theorem blank (space : isSpace c = true) (rest : Lexes characters found) :
    Lexes (c :: characters) found := by
  refine cons [c] [] Nat.one_pos (fun steps before behind => ?_) rest
  rw [List.singleton_append, lexemesAfter, if_pos space]
  rfl

/-- A mark in front. -/
theorem mark {lexeme : Lexeme} (solid : isSpace c = false) (punctuation : punctuation? c = some lexeme)
    (rest : Lexes characters found) : Lexes (c :: characters) (lexeme :: found) := by
  refine cons [c] [lexeme] Nat.one_pos (fun steps before behind => ?_) rest
  rw [List.singleton_append, lexemesAfter, if_neg (by rw [solid]; exact Bool.false_ne_true), punctuation]
  rfl

/-- A lexeme of several characters in front. -/
theorem solid_cons {first : List Char} {lexeme : Lexeme} (solid : isSpace c = false)
    (noMark : punctuation? c = none)
    (read : ∀ rest, readLexeme c (first ++ rest) = some (lexeme, rest))
    (rest : Lexes characters found) : Lexes (c :: first ++ characters) (lexeme :: found) := by
  refine cons (c :: first) [lexeme] (Nat.succ_pos _) (fun steps before behind => ?_) rest
  rw [List.cons_append, lexemesAfter, if_neg (by rw [solid]; exact Bool.false_ne_true), noMark]
  dsimp only
  rw [read]
  rfl

/-- **A text** in front. -/
theorem text (value : String) (rest : Lexes characters found) :
    Lexes ((quoted value).toList ++ characters) (.text (some value) :: found) := by
  have written : (quoted value).toList =
      '"' :: (value.toList.flatMap (fun c => (escape c).toList) ++ ['"']) := by
    unfold quoted
    rw [String.toList_append, String.toList_append, String.toList_join, List.flatMap_map]
    rfl
  rw [written]
  refine solid_cons rfl rfl (fun behind => ?_) rest
  rw [List.append_assoc]
  show (readText _ (_ ++ '"' :: behind)).map _ = _
  rw [readText_quoted]
  rfl

/-- **A lexeme that ends where fresh characters follow.** -/
theorem of_readLexeme {first : List Char} {lexeme : Lexeme} (solid : isSpace c = false)
    (noMark : punctuation? c = none)
    (read : ∀ rest, Fresh rest → readLexeme c (first ++ rest) = some (lexeme, rest)) :
    Lexes (c :: first) [lexeme] := by
  refine ⟨1, Nat.succ_pos _, fun steps before rest fresh => ?_⟩
  rw [Nat.add_comm, List.cons_append, lexemesAfter, if_neg (by rw [solid]; exact Bool.false_ne_true), noMark]
  dsimp only
  rw [read rest fresh]
  rfl

/-! ### Words and numbers -/

/-- **A bare word.** -/
theorem word (first : List Char) {value : Json Numeral} (solid : isSpace c = false)
    (noMark : punctuation? c = none) (noQuote : (c == '"') = false)
    (noNumber : (c.isDigit || c == '-') = false)
    (letters : first.all Char.isAlpha = true) (known : word? (c :: first) = some value) :
    Lexes (c :: first) [.scalar value] := by
  refine of_readLexeme solid noMark fun rest fresh => ?_
  have passes := List.all_eq_true.mp letters
  have taken := Text.Digits.takeWhile_run passes fun c here => (fresh c here).2
  have left := Text.Digits.dropWhile_run passes fun c here => (fresh c here).2
  rw [readLexeme, noQuote, noNumber, if_neg Bool.false_ne_true, if_neg Bool.false_ne_true, taken, left,
    known]
  rfl

theorem null : Lexes "null".toList [.scalar .null] :=
  word "ull".toList rfl rfl rfl rfl rfl rfl

theorem bool (value : Bool) : Lexes (if value then "true" else "false").toList [.scalar (.bool value)] := by
  cases value with
  | true => exact word "rue".toList rfl rfl rfl rfl rfl rfl
  | false => exact word "alse".toList rfl rfl rfl rfl rfl rfl

/-- What begins a number is no blank, no mark and no quote. -/
theorem begins_number (begins : (c.isDigit || c == '-') = true) :
    isSpace c = false ∧ punctuation? c = none ∧ (c == '"') = false := by
  have other : ∀ d : Char, (d.isDigit || d == '-') = false → c ≠ d := by
    rintro d neither rfl
    cases neither.symm.trans begins
  refine ⟨?_, ?_, beq_false_of_ne (other '"' rfl)⟩
  · simp [isSpace, other ' ' rfl, other '\n' rfl, other '\t' rfl, other '\r' rfl]
  · unfold punctuation?
    split
    case h_7 => rfl
    all_goals exact absurd begins (by decide)

/-- **A number.** -/
theorem numeral {characters : List Char} {numeral : Numeral}
    (spelled : Numeral.ofChars? characters = some numeral) :
    Lexes characters [.scalar (.number numeral)] := by
  obtain ⟨c, first, rfl, begins, numeric⟩ := Numeral.ofChars?_numeric spelled
  obtain ⟨solid, noMark, noQuote⟩ := begins_number begins
  refine of_readLexeme solid noMark fun rest fresh => ?_
  have taken := Text.Digits.takeWhile_run numeric fun c here => (fresh c here).1
  have left := Text.Digits.dropWhile_run numeric fun c here => (fresh c here).1
  rw [readLexeme, noQuote, begins, if_neg Bool.false_ne_true, if_pos rfl, taken, left, spelled]
  rfl

/-- Blanks in front. -/
theorem blanks {margin characters : List Char} {found : List Lexeme}
    (spaces : ∀ c ∈ margin, isSpace c = true) (rest : Lexes characters found) :
    Lexes (margin ++ characters) found := by
  induction margin with
  | nil => exact rest
  | cons c others ih =>
    exact (ih fun other member => spaces other (List.mem_cons_of_mem _ member)).blank
      (spaces c List.mem_cons_self)

/-- Items behind a margin each, with commas between them. -/
theorem separated {margin : List Char} (spaces : ∀ c ∈ margin, isSpace c = true) {items : List (List Char)}
    {found : List (List Lexeme)} (each : List.Forall₂ Lexes items found) :
    Lexes ([','].intercalate (items.map (margin ++ ·))) ([.comma].intercalate found) := by
  induction each with
  | nil => exact nil
  | @cons item lexemes others more own rest ih =>
    have here : Lexes (margin ++ item) lexemes := own.blanks spaces
    cases rest with
    | nil => simpa using here
    | cons =>
      rw [List.map_cons, List.map_cons, List.intercalate_cons_cons, List.intercalate_cons_cons,
        List.append_assoc _ [','], List.append_assoc _ [Lexeme.comma], List.singleton_append,
        List.singleton_append]
      exact here.append (mark (c := ',') rfl rfl ih) (Fresh.cons (c := ',') rfl rfl _)

/-- **Items between brackets**, one per line. -/
theorem stacked (opening closing : Char) {opens closes : Lexeme} {items : List String}
    {found : List (List Lexeme)} (begins : isSpace opening = false)
    (opened : punctuation? opening = some opens) (ends : isSpace closing = false)
    (closed : punctuation? closing = some closes)
    (each : List.Forall₂ (fun item lexemes => Lexes item.toList lexemes) items found) (level : Nat) :
    Lexes (stacked level (.singleton opening) (.singleton closing) items).toList
      (opens :: ([.comma].intercalate found ++ [closes])) := by
  have last : Lexes [closing] [closes] := mark ends closed nil
  unfold Json.stacked
  split
  · rename_i empty
    obtain rfl := List.isEmpty_iff.mp empty
    cases each
    rw [String.toList_append, String.toList_singleton, String.toList_singleton]
    exact mark begins opened last
  · let margin (depth : Nat) : List Char := '\n' :: List.replicate (2 * depth) ' '
    have spaces : ∀ depth, ∀ c ∈ margin depth, isSpace c = true := by
      intro depth c member
      rcases List.mem_cons.mp member with rfl | member
      · rfl
      · rw [List.eq_of_mem_replicate member]
        rfl
    have written : (String.singleton opening ++ ",".intercalate (items.map fun item =>
          "\n" ++ String.ofList (List.replicate (2 * (level + 1)) ' ') ++ item) ++
        ("\n" ++ String.ofList (List.replicate (2 * level) ' ')) ++ String.singleton closing).toList =
          opening :: ([','].intercalate ((items.map String.toList).map (margin (level + 1) ++ ·)) ++
            (margin level ++ [closing])) := by
      simp only [String.toList_append, String.toList_singleton, String.toList_intercalate,
        String.toList_ofList, List.map_map, Function.comp_def, List.append_assoc]
      rfl
    rw [written]
    refine mark begins opened ?_
    have inner := separated (spaces (level + 1)) (List.forall₂_map_left_iff.mpr each)
    exact inner.append (last.blanks (spaces level)) (Fresh.cons (c := '\n') rfl rfl _)

/-- **A whole text.** -/
theorem lexemes {text : String} {found : List Lexeme} (cut : Lexes text.toList found) :
    lexemes text = some found := by
  obtain ⟨cost, few, cuts⟩ := cut
  have whole := cuts (text.toList.length - cost) [] [] .nil
  rw [List.append_nil, List.append_nil, Nat.add_sub_cancel' few] at whole
  unfold Json.lexemes
  dsimp only
  rw [whole, lexemesAfter, List.reverse_reverse]

end Lexes

end FlightRoute.Json
