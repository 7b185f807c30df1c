/-
**A JSON value that is written is read again.**

The lexemes of a value are put together on a stack. Whatever is open, the lexemes of one value add just that
value to it (`Assembles`): by induction on the value, whose items and members are added one by one to the
innermost container. Since a value that is written line by line is cut into its own lexemes, it is read back,
with its numbers as the numerals that they were written as.

* `lexemesOf`: the lexemes of a value;
* `prettyAt_lexes`: a value that is written is cut into its lexemes;
* `foldlM_separated`: what stands between commas is added one by one;
* `assembles`: the lexemes of a value are put together to it;
* `parse_prettyAt`: what is written is read.
-/

import FlightRoute.Proofs.Json.Lexing

namespace FlightRoute.Json

/-! ### Numbers of another kind -/

section Renumber

variable {ν μ : Type} {f : ν → μ}

/-- The value with other numbers. -/
def renumber (f : ν → μ) (value : Json ν) : Json μ := value.replaceNumbers fun x => .number (f x)

theorem replaceInItems_eq (items : List (Json ν)) :
    replaceInItems (fun x => .number (f x)) items = items.map (renumber f) := by
  induction items with
  | nil => rfl
  | cons item rest ih => rw [replaceInItems, ih, List.map_cons, renumber]

/-- A list, item by item. -/
theorem renumber_array (items : List (Json ν)) :
    renumber f (.array items) = .array (items.map (renumber f)) := by
  rw [renumber, replaceNumbers, replaceInItems_eq]

end Renumber

/-! ### The lexemes of a value -/

mutual

/-- The lexemes of a value. -/
def lexemesOf : Json Numeral → List Lexeme
  | .null => [.scalar .null]
  | .bool value => [.scalar (.bool value)]
  | .number value => [.scalar (.number value)]
  | .text value => [.text (some value)]
  | .array items => .openArray :: ([.comma].intercalate (itemLexemes items) ++ [.closeArray])
  | .object members => .openObject :: ([.comma].intercalate (memberLexemes members) ++ [.closeObject])
  | .unreadable => [.text none]

/-- The lexemes of each item. -/
def itemLexemes : List (Json Numeral) → List (List Lexeme)
  | [] => []
  | item :: rest => lexemesOf item :: itemLexemes rest

/-- The lexemes of each member. -/
def memberLexemes : List (String × Json Numeral) → List (List Lexeme)
  | [] => []
  | (name, value) :: rest => (.text (some name) :: .colon :: lexemesOf value) :: memberLexemes rest

end

mutual

/-- Every part of a value can be read, and what is said of numbers holds of all of its own. -/
def Legible {ν : Type} (holds : ν → Prop) : Json ν → Prop
  | .number value => holds value
  | .array items => LegibleItems holds items
  | .object members => LegibleMembers holds members
  | .unreadable => False
  | _ => True

/-- Every item can be read. -/
def LegibleItems {ν : Type} (holds : ν → Prop) : List (Json ν) → Prop
  | [] => True
  | item :: rest => Legible holds item ∧ LegibleItems holds rest

/-- The value of every member can be read. -/
def LegibleMembers {ν : Type} (holds : ν → Prop) : List (String × Json ν) → Prop
  | [] => True
  | (_, value) :: rest => Legible holds value ∧ LegibleMembers holds rest

end

theorem legibleItems_map {ν β : Type} {holds : ν → Prop} {toJson : β → Json ν} {items : List β}
    (each : ∀ item ∈ items, Legible holds (toJson item)) : LegibleItems holds (items.map toJson) := by
  induction items with
  | nil => trivial
  | cons item rest ih =>
    obtain ⟨own, further⟩ := List.forall_mem_cons.mp each
    exact ⟨own, ih further⟩

/-! ### Cutting -/

section Cutting

variable {ν : Type} {number : ν → String} {numeral : ν → Numeral}

/-- The writer spells a number as its numeral. -/
def Spells (number : ν → String) (numeral : ν → Numeral) (value : ν) : Prop :=
  Numeral.ofChars? (number value).toList = some (numeral value)

mutual

/-- **A value that is written** is cut into the lexemes of the value with its numerals. -/
theorem prettyAt_lexes (value : Json ν) (legible : Legible (Spells number numeral) value) (level : Nat) :
    Lexes (prettyAt number level value).toList (lexemesOf (value.renumber numeral)) := by
  cases value with
  | null => exact .null
  | bool value => exact .bool value
  | number value => exact .numeral legible
  | text value =>
    have own := Lexes.text value .nil
    rw [List.append_nil] at own
    exact own
  | array items =>
    rw [prettyAt, renumber, Json.replaceNumbers, lexemesOf]
    exact Lexes.stacked '[' ']' rfl rfl rfl rfl (prettyItems_lex items legible (level + 1)) level
  | object members =>
    rw [prettyAt, renumber, Json.replaceNumbers, lexemesOf]
    exact Lexes.stacked '\x7b' '\x7d' rfl rfl rfl rfl
      (prettyMembers_lex members legible (level + 1)) level
  | unreadable => exact absurd legible id

theorem prettyItems_lex (items : List (Json ν)) (legible : LegibleItems (Spells number numeral) items)
    (level : Nat) :
    List.Forall₂ (fun item lexemes => Lexes item.toList lexemes) (prettyItems number level items)
      (itemLexemes (replaceInItems (fun x => .number (numeral x)) items)) := by
  match items with
  | [] => exact .nil
  | item :: rest =>
    exact .cons (prettyAt_lexes item legible.1 level) (prettyItems_lex rest legible.2 level)

theorem prettyMembers_lex (members : List (String × Json ν))
    (legible : LegibleMembers (Spells number numeral) members) (level : Nat) :
    List.Forall₂ (fun item lexemes => Lexes item.toList lexemes) (prettyMembers number level members)
      (memberLexemes (replaceInMembers (fun x => .number (numeral x)) members)) := by
  match members with
  | [] => exact .nil
  | (name, value) :: rest =>
    refine .cons ?_ (prettyMembers_lex rest legible.2 level)
    have own := prettyAt_lexes value legible.1 level
    rw [String.toList_append, String.toList_append, List.append_assoc]
    exact .text name (.mark (c := ':') rfl rfl (.blank (c := ' ') rfl own))

end

end Cutting

/-! ### Putting together -/

theorem itemLexemes_eq (items : List (Json Numeral)) : itemLexemes items = items.map lexemesOf := by
  induction items with
  | nil => rfl
  | cons item rest ih => rw [itemLexemes, ih, List.map_cons]

theorem memberLexemes_eq (members : List (String × Json Numeral)) :
    memberLexemes members =
      members.map fun member => .text (some member.1) :: .colon :: lexemesOf member.2 := by
  induction members with
  | nil => rfl
  | cons member rest ih => rw [memberLexemes, ih, List.map_cons]

/-- The lexemes of a value are put together to it, wherever a value is due. -/
def Assembles (value : Json Numeral) : Prop :=
  ∀ assembly : Assembly, assembly.expected = .value ∨ assembly.expected = .firstItem →
    (lexemesOf value).foldlM Assembly.step assembly = some (assembly.complete value)

/-- Where a value is due, a lexeme that begins one is taken. -/
theorem foldlM_due {assembly next : Assembly}
    (due : assembly.expected = .value ∨ assembly.expected = .firstItem) {lexeme : Lexeme}
    (taken : assembly.value lexeme = some next) (rest : List Lexeme) :
    (lexeme :: rest).foldlM Assembly.step assembly = rest.foldlM Assembly.step next := by
  have here : assembly.step lexeme = some next := by
    unfold Assembly.step
    rcases due with due | due
    · rw [due]
      cases lexeme <;> exact taken
    · rw [due]
      cases lexeme with
      | closeArray => cases taken
      | _ => exact taken
  rw [List.foldlM_cons, here]
  rfl

section Containers

variable {outer : List Container} {result : Option (Json Numeral)}

/-- **What stands between commas** is added one by one to what is open. -/
theorem foldlM_separated {β : Type} (container : List β → Container) {lexemes : β → List Lexeme}
    {next first : Expected} {items : List β}
    (each : ∀ item ∈ items, ∀ before expected, expected = next ∨ expected = first →
      (lexemes item).foldlM Assembly.step ⟨container before :: outer, expected, result⟩ =
        some ⟨container (item :: before) :: outer, .separator, result⟩)
    (comma : ∀ before, Assembly.step ⟨container before :: outer, .separator, result⟩ .comma =
      some ⟨container before :: outer, next, result⟩)
    (filled : items ≠ []) (before : List β) {expected : Expected} (due : expected = next ∨ expected = first) :
    ([.comma].intercalate (items.map lexemes)).foldlM Assembly.step
        ⟨container before :: outer, expected, result⟩ =
      some ⟨container (items.reverse ++ before) :: outer, .separator, result⟩ := by
  induction items generalizing before expected with
  | nil => exact absurd rfl filled
  | cons item rest ih =>
    obtain ⟨own, others⟩ := List.forall_mem_cons.mp each
    cases rest with
    | nil =>
      rw [List.map_cons, List.map_nil, List.intercalate_singleton, own before expected due]
      rfl
    | cons second more =>
      have further := ih others (List.cons_ne_nil _ _) (item :: before) (Or.inl rfl)
      have separated : [Lexeme.comma].foldlM Assembly.step
          ⟨container (item :: before) :: outer, .separator, result⟩ =
            some ⟨container (item :: before) :: outer, next, result⟩ := by
        rw [List.foldlM_cons, comma]
        rfl
      rw [List.map_cons, List.map_cons, List.intercalate_cons_cons, List.foldlM_append,
        List.foldlM_append, own before expected due]
      show ([Lexeme.comma].foldlM Assembly.step _ >>= _) = _
      rw [separated, List.reverse_cons, List.append_assoc]
      exact further

/-- **Items** are added to the list that is open. -/
theorem foldlM_items {items : List (Json Numeral)} (each : ∀ item ∈ items, Assembles item)
    (filled : items ≠ []) {expected : Expected} (due : expected = .value ∨ expected = .firstItem) :
    ([.comma].intercalate (itemLexemes items)).foldlM Assembly.step
        ⟨.array [] :: outer, expected, result⟩ =
      some ⟨.array items.reverse :: outer, .separator, result⟩ := by
  rw [itemLexemes_eq, ← List.append_nil items.reverse]
  exact foldlM_separated .array (fun item member before expected => each item member
    ⟨.array before :: outer, expected, result⟩) (fun _ => rfl) filled [] due

/-- **Members** are added to the object that is open. -/
theorem foldlM_members {members : List (String × Json Numeral)}
    (each : ∀ member ∈ members, Assembles member.2) (filled : members ≠ []) {expected : Expected}
    (due : expected = .name ∨ expected = .firstName) :
    ([.comma].intercalate (memberLexemes members)).foldlM Assembly.step
        ⟨.object [] true none :: outer, expected, result⟩ =
      some ⟨.object members.reverse true none :: outer, .separator, result⟩ := by
  rw [memberLexemes_eq, ← List.append_nil members.reverse]
  refine foldlM_separated (.object · true none) (fun member here before expected due => ?_)
    (fun _ => rfl) filled [] due
  -- Behind the name and the colon the value is due.
  have own := each member here ⟨.object before true (some member.1) :: outer, .value, result⟩ (.inl rfl)
  rcases due with rfl | rfl
  · exact own
  · exact own

end Containers

mutual

/-- **Every value** is put together of its lexemes. -/
theorem assembles (value : Json Numeral) : Assembles value := by
  intro assembly due
  cases value with
  | null | bool | number | text | unreadable =>
    rw [lexemesOf]
    exact (foldlM_due due rfl []).trans rfl
  | array items =>
    rw [lexemesOf]
    refine (foldlM_due due rfl _).trans ?_
    rw [List.foldlM_append]
    by_cases filled : items = []
    · rw [filled]
      rfl
    · rw [Assembly.enter, foldlM_items (assembles_items items) filled (.inr rfl)]
      show some (assembly.complete (.array items.reverse.reverse)) = _
      rw [List.reverse_reverse]
  | object members =>
    rw [lexemesOf]
    refine (foldlM_due due rfl _).trans ?_
    rw [List.foldlM_append]
    by_cases filled : members = []
    · rw [filled]
      rfl
    · rw [Assembly.enter, foldlM_members (assembles_members members) filled (.inr rfl)]
      show some (assembly.complete (.object members.reverse.reverse)) = _
      rw [List.reverse_reverse]

theorem assembles_items (items : List (Json Numeral)) : ∀ item ∈ items, Assembles item := by
  match items with
  | [] => exact fun _ member => absurd member List.not_mem_nil
  | item :: rest => exact List.forall_mem_cons.mpr ⟨assembles item, assembles_items rest⟩

theorem assembles_members (members : List (String × Json Numeral)) :
    ∀ member ∈ members, Assembles member.2 := by
  match members with
  | [] => exact fun _ member => absurd member List.not_mem_nil
  | (_, value) :: rest => exact List.forall_mem_cons.mpr ⟨assembles value, assembles_members rest⟩

end


/-- **A value that is written** is read again, with its numbers as they were spelled. -/
theorem parse_prettyAt {ν : Type} {number : ν → String} {numeral : ν → Numeral} {value : Json ν}
    (legible : Legible (Spells number numeral) value) (level : Nat) :
    parse (prettyAt number level value) = some (value.renumber numeral) := by
  unfold parse
  rw [(prettyAt_lexes value legible level).lexemes]
  show Option.bind (List.foldlM _ _ _) _ = _
  rw [assembles _ ⟨[], .value, none⟩ (.inl rfl)]
  rfl

end FlightRoute.Json
