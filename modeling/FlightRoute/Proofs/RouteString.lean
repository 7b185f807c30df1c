/-
**A route that is written out reads as it was.**

The words of a text are put into capitals and read one by one. A token of a text is therefore written as
a word in capitals, and that word is read as the token again (`Token.IsWritten`). Tokens of this kind,
with single spaces in between, make a text whose words are theirs (`Legible`). That is so for all tokens
of a text, for those that stay without the airports, and for those of its segments.

* `words_intercalate`: words with single spaces in between are the words of the text they make;
* `parse_isWritten`: the tokens of a text are written as they are read;
* `parse_display_iff`: tokens read as themselves exactly when they are written so;
* `parse_legible`: the tokens of a text, whole, without the airports, and in segments.
-/

import FlightRoute.Proofs.Resolve.Tokens
import FlightRoute.Proofs.Segment

namespace FlightRoute

/-! ### Words -/

namespace Text

variable {text word : String}

/-- A text that is not empty and holds no blank. -/
structure IsWord (text : String) : Prop where
  nonempty : text ≠ ""
  solid : ∀ c ∈ text.toList, isBlank c = false

/-- What is split at blanks holds none. -/
theorem isBlank_of_mem_splitOnP {characters run : List Char} (listed : run ∈ characters.splitOnP isBlank) :
    ∀ c ∈ run, isBlank c = false := by
  induction characters generalizing run with
  | nil =>
    rw [List.splitOnP_nil, List.mem_singleton] at listed
    simp [listed]
  | cons first rest ih =>
    rw [List.splitOnP_cons_eq_if_modifyHead] at listed
    by_cases blank : isBlank first = true
    · rw [if_pos blank] at listed
      rcases List.mem_cons.mp listed with rfl | later
      · exact fun c member => absurd member List.not_mem_nil
      · exact ih later
    · rw [if_neg blank] at listed
      cases runs : rest.splitOnP isBlank with
      | nil => exact absurd runs (List.splitOnP_ne_nil _ _)
      | cons front others =>
        rw [runs, List.modifyHead_cons] at listed
        have later : ∀ other ∈ front :: others, ∀ c ∈ other, isBlank c = false := fun other member =>
          ih (runs ▸ member)
        rcases List.mem_cons.mp listed with rfl | member
        · exact List.forall_mem_cons.mpr
            ⟨Bool.eq_false_iff.mpr blank, later front List.mem_cons_self⟩
        · exact later run (List.mem_cons_of_mem _ member)

/-- The words of a text are words. -/
theorem isWord_of_mem_words (listed : word ∈ words text) : IsWord word := by
  obtain ⟨run, kept, rfl⟩ := List.mem_map.mp listed
  obtain ⟨split, nonempty⟩ := List.mem_filter.mp kept
  refine ⟨?_, ?_⟩
  · simpa using nonempty
  · rw [String.toList_ofList]
    exact isBlank_of_mem_splitOnP split

/-- Runs without blanks, with single spaces in between, are split there. -/
theorem splitOnP_intercalate {runs : List (List Char)} (nonempty : runs ≠ [])
    (solid : ∀ run ∈ runs, ∀ c ∈ run, isBlank c = false) :
    ([' '].intercalate runs).splitOnP isBlank = runs := by
  induction runs with
  | nil => exact absurd rfl nonempty
  | cons first rest ih =>
    have own := solid first List.mem_cons_self
    cases rest with
    | nil =>
      rw [List.intercalate_singleton]
      exact List.splitOnP_eq_singleton own
    | cons second others =>
      rw [List.intercalate_cons_cons, List.append_assoc, List.singleton_append,
        List.splitOnP_append_cons_of_forall_mem own ' ' rfl,
        ih (List.cons_ne_nil _ _) fun run member => solid run (List.mem_cons_of_mem _ member)]

/-- **Words with single spaces in between** are the words of the text they make. -/
theorem words_intercalate {items : List String} (all : ∀ word ∈ items, IsWord word) :
    words (" ".intercalate items) = items := by
  by_cases empty : items = []
  · rw [empty]
    rfl
  · have runs : ∀ run ∈ items.map String.toList, run ≠ [] ∧ ∀ c ∈ run, isBlank c = false := by
      simp only [List.forall_mem_map, ne_eq, String.toList_eq_nil_iff]
      exact fun word listed => ⟨(all word listed).nonempty, (all word listed).solid⟩
    have split := splitOnP_intercalate (by simpa using empty) fun run listed => (runs run listed).2
    have kept : (items.map String.toList).filter (fun run => !run.isEmpty) =
        items.map String.toList :=
      List.filter_eq_self.mpr fun run listed => by simpa using (runs run listed).1
    rw [words, wordRuns, String.toList_intercalate]
    show (((([' '].intercalate (items.map String.toList)).splitOnP isBlank).filter _).map _) = _
    rw [split, kept, List.map_map]
    simp

/-! ### Capitals -/

theorem isLower_iff {c : Char} : c.isLower = true ↔ 97 ≤ c.toNat ∧ c.toNat ≤ 122 := by
  unfold Char.isLower
  rw [Bool.and_eq_true, decide_eq_true_iff, decide_eq_true_iff]
  exact Iff.rfl

/-- A small letter is put into capitals. -/
theorem toNat_toUpper {c : Char} (lower : c.isLower = true) : c.toUpper.toNat = c.toNat - 32 := by
  obtain ⟨low, high⟩ := isLower_iff.mp lower
  unfold Char.isLower at lower
  rw [Bool.and_eq_true, decide_eq_true_iff, decide_eq_true_iff] at lower
  unfold Char.toUpper
  rw [dif_pos lower]
  show (c.val + ('A'.val - 'a'.val)).toNat = c.val.toNat - 32
  rw [UInt32.toNat_add]
  change (c.toNat + 4294967264) % 4294967296 = c.toNat - 32
  omega

/-- No letter is a blank, nor is what stands between capitals and small letters. -/
theorem isBlank_of_letter {c : Char} (low : 65 ≤ c.toNat) (high : c.toNat ≤ 122) :
    isBlank c = false := by
  simp only [isBlank, blankRanges, List.any_cons, List.any_nil, Bool.or_false, Bool.or_eq_false_iff,
    Bool.and_eq_false_iff, decide_eq_false_iff_not]
  omega

/-- Putting a character into capitals makes no blank of it and takes none away. -/
theorem isBlank_toUpper (c : Char) : isBlank c.toUpper = isBlank c := by
  by_cases lower : c.isLower = true
  · obtain ⟨low, high⟩ := isLower_iff.mp lower
    have moved := toNat_toUpper lower
    rw [isBlank_of_letter (by omega) high, isBlank_of_letter (by omega) (by omega)]
  · rw [toUpper_of_not_isLower lower]

/-- What is put into capitals is no small letter. -/
theorem isLower_toUpper (c : Char) : c.toUpper.isLower = false := by
  by_cases lower : c.isLower = true
  · have small := isLower_iff.mp lower
    have moved := toNat_toUpper lower
    refine Bool.eq_false_iff.mpr fun again => ?_
    have still := isLower_iff.mp again
    omega
  · rw [toUpper_of_not_isLower lower]
    exact Bool.eq_false_iff.mpr lower

/-- A word in capitals is a word. -/
theorem IsWord.toUpper (isWord : IsWord word) : IsWord word.toUpper where
  nonempty empty := isWord.nonempty <| by
    rw [← String.toList_eq_nil_iff, String.toUpper, String.toList_map, List.map_eq_nil_iff] at empty
    exact String.toList_eq_nil_iff.mp empty
  solid := by
    rw [String.toUpper, String.toList_map]
    simp only [List.forall_mem_map, isBlank_toUpper]
    exact isWord.solid

theorem inCapitals_toUpper (text : String) : inCapitals text.toUpper = true := by
  unfold inCapitals String.toUpper
  rw [String.toList_map, List.all_map]
  refine List.all_eq_true.mpr fun c _ => ?_
  rw [Function.comp_apply, isLower_toUpper]
  rfl

/-- Capitals stay as they are. -/
theorem toUpper_toUpper (text : String) : text.toUpper.toUpper = text.toUpper :=
  toUpper_eq_self (inCapitals_toUpper text)

end Text

/-! ### Tokens -/

/-- A token whose text is a word in capitals, and that word is read as the token. -/
structure Token.IsWritten (token : Token) : Prop where
  isRead : token.IsRead
  isWord : Text.IsWord token.text
  capitals : token.text.toUpper = token.text

namespace RouteString

variable {text : String} {tokens : List Token}

/-- **The tokens of a text** are written as they are read. -/
theorem parse_isWritten (parsed : parse text = .ok tokens) : ∀ token ∈ tokens, token.IsWritten := by
  intro token member
  obtain ⟨position, here⟩ := List.mem_iff_getElem?.mp member
  obtain ⟨word, found, classified⟩ := (mapM_getElem? parsed).mp here
  have isWord : Text.IsWord word := Text.isWord_of_mem_words (List.mem_of_getElem? found)
  refine ⟨parse_isRead parsed token member, ?_, ?_⟩
  · rw [Token.classify_text classified]
    exact isWord.toUpper
  · rw [Token.classify_text classified]
    exact Text.toUpper_toUpper word

/-- The words of tokens that are written out are their texts. -/
theorem words_display (written : ∀ token ∈ tokens, token.IsWritten) :
    Text.words (display tokens) = tokens.map Token.text := by
  apply Text.words_intercalate
  rw [List.forall_mem_map]
  exact fun token member => (written token member).isWord

/-- **Tokens read as themselves** exactly when they are written as they are read. -/
theorem parse_display_iff :
    parse (display tokens) = .ok tokens ↔ ∀ token ∈ tokens, token.IsWritten := by
  refine ⟨parse_isWritten, fun written => ?_⟩
  have own : ∀ token ∈ tokens, Token.classify token.text.toUpper = pure token := by
    intro token member
    rw [(written token member).capitals]
    exact (written token member).isRead
  calc parse (display tokens)
      = (tokens.map Token.text).mapM fun word => Token.classify word.toUpper := by
        rw [parse, words_display written]
    _ = tokens.mapM fun token => Token.classify token.text.toUpper := List.mapM_map
    _ = tokens.mapM fun token => pure (id token) := mapM_congr own
    _ = .ok tokens := by rw [List.mapM_pure, List.map_id, pure_eq_ok]

/-- Tokens that stand in a text one by one, with a single space between two of them, and that are read from it
as they are. -/
structure Legible (tokens : List Token) : Prop where
  spaced : tokens ≠ [] → (display tokens).toList.splitOn ' ' = tokens.map (·.text.toList)
  words : Text.words (display tokens) = tokens.map Token.text
  parsed : parse (display tokens) = .ok tokens

/-- Tokens that are written as they are read make a legible text. -/
theorem legible_of_written (written : ∀ token ∈ tokens, token.IsWritten) : Legible tokens where
  spaced nonempty := by
    have apart : ∀ run ∈ tokens.map (·.text.toList), ' ' ∉ run := by
      rw [List.forall_mem_map]
      intro token member space
      have blank : Text.isBlank ' ' = false := (written token member).isWord.solid ' ' space
      cases blank
    rw [display, String.toList_intercalate, List.map_map]
    exact List.splitOn_intercalate ' ' apart (by simpa using nonempty)
  words := words_display written
  parsed := parse_display_iff.mpr written

/-- **A route that is written out reads as it was**: all tokens of a text, those that stay without the airports,
and those of the segments of either. -/
theorem parse_legible (parsed : parse text = .ok tokens) :
    Legible tokens ∧
      (∀ origin destination, Legible (stripAirports origin destination tokens)) ∧
      (∀ segments, Segment.group tokens = .ok segments →
        Segment.flatten segments = tokens ∧ Legible (Segment.flatten segments)) ∧
      ∀ origin destination segments,
        Segment.group (stripAirports origin destination tokens) = .ok segments →
          Legible (Segment.flatten segments) := by
  have whole : Legible tokens := legible_of_written (parse_isWritten parsed)
  have stripped : ∀ origin destination, Legible (stripAirports origin destination tokens) :=
    fun origin destination => legible_of_written fun token member =>
      parse_isWritten parsed token (mem_of_mem_stripAirports member)
  refine ⟨whole, stripped, fun segments grouped => ?_, fun origin destination segments grouped => ?_⟩
  · rw [Segment.flatten_group grouped]
    exact ⟨rfl, whole⟩
  · rw [Segment.flatten_group grouped]
    exact stripped origin destination

/-- A text in small letters, with a coordinate, two commands and more blanks than it needs. -/
theorem parse_legible_capitals :
    ∃ position,
      parse " ab  5020n auto kbbb" =
        .ok [.ident "AB", .coordinate "5020N" position, .auto, .ident "KBBB"] ∧
      parse "AB 5020N AUTO KBBB" =
        .ok [.ident "AB", .coordinate "5020N" position, .auto, .ident "KBBB"] ∧
      parse "AB 5020N AUTO" = .ok [.ident "AB", .coordinate "5020N" position, .auto] := by
  obtain ⟨position, literal⟩ : ∃ position,
      Token.classify "5020N" = .ok (.coordinate "5020N" position) := ⟨_, Token.classify_literal⟩
  have words : Text.words " ab  5020n auto kbbb" = ["ab", "5020n", "auto", "kbbb"] := by
    decide
  have capitals : ["ab", "5020n", "auto", "kbbb"].map String.toUpper =
      ["AB", "5020N", "AUTO", "KBBB"] := by decide +kernel
  have parsed : parse " ab  5020n auto kbbb" =
      .ok [.ident "AB", .coordinate "5020N" position, .auto, .ident "KBBB"] := by
    show (Text.words _).mapM (Token.classify ∘ String.toUpper) = _
    rw [words, ← List.mapM_map, capitals, List.mapM_cons, List.mapM_cons, literal]
    rfl
  obtain ⟨whole, stripped, _⟩ := parse_legible parsed
  exact ⟨position, parsed, whole.parsed, (stripped "KAAA" "KBBB").parsed⟩

end RouteString

end FlightRoute
