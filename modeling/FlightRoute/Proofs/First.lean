/-
**The first and the last of a list.**

Where several items of a list fit, the first one or the last one counts. Both come with the items that stand
before them or behind them, none of which fits.

* `First.unique`: only one item is the first that fits;
* `first_of_find?`: what a search from the front finds;
* `first_or_none`: there is a first one unless none fits.
-/

namespace FlightRoute

variable {β : Type}

/-- An item of a list fits, and none of the items before it does. -/
structure First (fits : β → Prop) (items before : List β) (item : β) : Prop where
  split : ∃ behind, items = before ++ item :: behind
  holds : fits item
  others : ∀ other ∈ before, ¬fits other

/-- An item of a list fits, and none of the items behind it does. -/
structure Last (fits : β → Prop) (items behind : List β) (item : β) : Prop where
  split : ∃ before, items = before ++ item :: behind
  holds : fits item
  others : ∀ other ∈ behind, ¬fits other

variable {fits : β → Prop} {items before behind : List β} {item first added : β}

theorem First.head (holds : fits first) (rest : List β) : First fits (first :: rest) [] first :=
  ⟨⟨rest, rfl⟩, holds, nofun⟩

/-- Behind an item that does not fit the first one stays the first. -/
theorem First.cons (other : ¬fits first) (found : First fits items before item) :
    First fits (first :: items) (first :: before) item := by
  obtain ⟨⟨behind, rfl⟩, holds, others⟩ := found
  exact ⟨⟨behind, rfl⟩, holds, List.forall_mem_cons.mpr ⟨other, others⟩⟩

theorem First.mem (found : First fits items before item) : item ∈ items := by
  obtain ⟨⟨behind, rfl⟩, _, _⟩ := found
  simp

/-- Only one item is the first that fits. -/
theorem First.unique {earlier : List β} {other : β} (found : First fits items before item)
    (also : First fits items earlier other) : before = earlier ∧ item = other := by
  induction before generalizing items earlier with
  | nil =>
    obtain ⟨⟨behind, rfl⟩, holds, _⟩ := found
    obtain ⟨⟨beyond, same⟩, _, others⟩ := also
    cases earlier with
    | nil =>
      cases same
      exact ⟨rfl, rfl⟩
    | cons first rest =>
      cases same
      exact absurd holds (others _ List.mem_cons_self)
  | cons first rest ih =>
    obtain ⟨⟨behind, rfl⟩, holds, others⟩ := found
    obtain ⟨⟨beyond, same⟩, fitting, apart⟩ := also
    cases earlier with
    | nil =>
      cases same
      exact absurd fitting (others _ List.mem_cons_self)
    | cons second more =>
      obtain ⟨rfl, tails⟩ := List.cons.inj same
      obtain ⟨rfl, rfl⟩ := ih ⟨⟨behind, rfl⟩, holds, (List.forall_mem_cons.mp others).2⟩
        ⟨⟨beyond, tails⟩, fitting, (List.forall_mem_cons.mp apart).2⟩
      exact ⟨rfl, rfl⟩

/-- What a search from the front finds is the first item that fits. -/
theorem first_of_find? {test : β → Bool} (found : items.find? test = some item) :
    ∃ before, First (fun item => test item = true) items before item := by
  obtain ⟨holds, before, behind, split, others⟩ := List.find?_eq_some_iff_append.mp found
  exact ⟨before, ⟨behind, split⟩, holds, fun other member => by simpa using others other member⟩

/-- No item fits, or there is a first one that does. -/
theorem first_or_none (fits : β → Prop) (items : List β) :
    (∀ item ∈ items, ¬fits item) ∨ ∃ before item, First fits items before item := by
  induction items with
  | nil => exact Or.inl nofun
  | cons first rest ih =>
    by_cases holds : fits first
    · exact Or.inr ⟨[], first, .head holds rest⟩
    · refine ih.imp (fun fails => List.forall_mem_cons.mpr ⟨holds, fails⟩) ?_
      rintro ⟨before, item, found⟩
      exact ⟨first :: before, item, found.cons holds⟩

/-- An item that fits is the last one once it is added at the end. -/
theorem Last.concat (holds : fits added) (items : List β) : Last fits (items ++ [added]) [] added :=
  ⟨⟨items, rfl⟩, holds, nofun⟩

/-- In front of an item that does not fit the last one stays the last. -/
theorem Last.append (other : ¬fits added) (found : Last fits items behind item) :
    Last fits (items ++ [added]) (behind ++ [added]) item := by
  obtain ⟨⟨before, rfl⟩, holds, others⟩ := found
  refine ⟨⟨before, by simp⟩, holds, fun one member => ?_⟩
  rcases List.mem_append.mp member with member | member
  · exact others one member
  · exact List.mem_singleton.mp member ▸ other

end FlightRoute
