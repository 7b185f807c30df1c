/-
**Results and errors.**

A chain of steps that may fail ends well exactly when every step does, and fails exactly when one
of its steps fails after all the steps before it ended well.

* `bind_eq_ok`, `bind_eq_error`: two steps, one after the other;
* `mapM_ok`: steps that all end well;
* `foldlM_invariant`: what every step of a loop keeps, the whole loop keeps;
* `foldlM_ok`, `foldlM_both`: a loop whose steps end well ends well, and so do two loops side by side;
* `foldlM_each`: what a step makes true of its item and all later steps keep is true of every item
  in the end;
* `Alike.bind`: two computations that end alike, step by step.
-/

namespace FlightRoute

variable {ε σ β γ : Type}

@[simp]
theorem pure_eq_ok (b : β) : (pure b : Except ε β) = .ok b := rfl

@[simp]
theorem ok_bind (b : β) (f : β → Except ε γ) : (Except.ok b >>= f) = f b := rfl

@[simp]
theorem error_bind (e : ε) (f : β → Except ε γ) : (Except.error e >>= f) = .error e := rfl

theorem bind_eq_ok {x : Except ε β} {f : β → Except ε γ} {c : γ} :
    (x >>= f) = .ok c ↔ ∃ b, x = .ok b ∧ f b = .ok c := by
  cases x with
  | error e => simp
  | ok b => simp

theorem bind_eq_error {x : Except ε β} {f : β → Except ε γ} {e : ε} :
    (x >>= f) = .error e ↔ x = .error e ∨ ∃ b, x = .ok b ∧ f b = .error e := by
  cases x with
  | error e => simp
  | ok b => simp

theorem map_eq_ok {x : Except ε β} {f : β → γ} {c : γ} :
    x.map f = .ok c ↔ ∃ b, x = .ok b ∧ f b = c := by
  cases x with
  | error e => simp [Except.map]
  | ok b => simp [Except.map]

theorem toOption_eq_some {x : Except ε β} {b : β} : x.toOption = some b ↔ x = .ok b := by
  cases x with
  | error e => simp [Except.toOption]
  | ok c => simp [Except.toOption]

/-- The results of a step on each item, by position. -/
theorem mapM_getElem? {f : β → Except ε γ} {items : List β} {results : List γ}
    (run : items.mapM f = .ok results) {position : Nat} {result : γ} :
    results[position]? = some result ↔
      ∃ item, items[position]? = some item ∧ f item = .ok result := by
  induction items generalizing results position with
  | nil =>
    cases run
    simp
  | cons item rest ih =>
    rw [List.mapM_cons] at run
    obtain ⟨first, here, run⟩ := bind_eq_ok.mp run
    obtain ⟨others, further, whole⟩ := bind_eq_ok.mp run
    cases whole
    cases position with
    | zero => simp [here]
    | succ position => exact ih further

/-- Steps that do the same on each item do the same on all. -/
theorem mapM_congr {f g : β → Except ε γ} {items : List β}
    (same : ∀ item ∈ items, f item = g item) : items.mapM f = items.mapM g := by
  induction items with
  | nil => rfl
  | cons item rest ih =>
    rw [List.mapM_cons, List.mapM_cons, same item List.mem_cons_self,
      ih fun other member => same other (List.mem_cons_of_mem _ member)]

/-- Steps that end well on each item end well on all. -/
theorem mapM_ok {f : β → Except ε γ} {items : List β}
    (step : ∀ item ∈ items, ∃ result, f item = .ok result) :
    ∃ results, items.mapM f = .ok results := by
  induction items with
  | nil => exact ⟨[], rfl⟩
  | cons item rest ih =>
    obtain ⟨first, here⟩ := step item List.mem_cons_self
    obtain ⟨others, further⟩ := ih fun other member => step other (List.mem_cons_of_mem _ member)
    refine ⟨first :: others, ?_⟩
    rw [List.mapM_cons, here, ok_bind, further]
    rfl

/-- **A loop keeps what each of its steps keeps.** -/
theorem foldlM_invariant {P : σ → Prop} {f : σ → β → Except ε σ} {items : List β} {s t : σ}
    (step : ∀ s item t, item ∈ items → P s → f s item = .ok t → P t)
    (run : items.foldlM f s = .ok t) (start : P s) : P t := by
  induction items generalizing s with
  | nil =>
    cases run
    exact start
  | cons item rest ih =>
    rw [List.foldlM_cons] at run
    obtain ⟨next, first, run⟩ := bind_eq_ok.mp run
    exact ih (fun s item' t member => step s item' t (List.mem_cons_of_mem _ member)) run
      (step s item next List.mem_cons_self start first)

/-- **A loop ends well when each of its steps does**, from a state like the one before it. -/
theorem foldlM_ok {P : σ → Prop} {f : σ → β → Except ε σ} {items : List β} {s : σ}
    (step : ∀ s item, item ∈ items → P s → ∃ t, f s item = .ok t ∧ P t) (start : P s) :
    ∃ t, items.foldlM f s = .ok t ∧ P t := by
  induction items generalizing s with
  | nil => exact ⟨s, rfl, start⟩
  | cons item rest ih =>
    obtain ⟨next, first, holds⟩ := step s item List.mem_cons_self start
    obtain ⟨t, run, ends⟩ :=
      ih (fun s item' member => step s item' (List.mem_cons_of_mem _ member)) holds
    refine ⟨t, ?_, ends⟩
    rw [List.foldlM_cons, first, ok_bind, run]

/-- **Two loops side by side** end well when each of their steps does, from states like those before. -/
theorem foldlM_both {τ : Type} {P : σ → τ → Prop} {f : σ → β → Except ε σ} {g : τ → β → Except ε τ}
    {items : List β} {s : σ} {t : τ}
    (step : ∀ s t item, item ∈ items → P s t →
      ∃ next image, f s item = .ok next ∧ g t item = .ok image ∧ P next image)
    (start : P s t) :
    ∃ next image, items.foldlM f s = .ok next ∧ items.foldlM g t = .ok image ∧ P next image := by
  induction items generalizing s t with
  | nil => exact ⟨s, t, rfl, rfl, start⟩
  | cons item rest ih =>
    obtain ⟨next, image, taken, also, holds⟩ := step s t item List.mem_cons_self start
    obtain ⟨last, final, run, ran, ends⟩ :=
      ih (fun s t item' member => step s t item' (List.mem_cons_of_mem _ member)) holds
    refine ⟨last, final, ?_, ?_, ends⟩
    · rw [List.foldlM_cons, taken, ok_bind, run]
    · rw [List.foldlM_cons, also, ok_bind, ran]

/-- **A loop leaves every item settled** when a step settles its own item and unsettles none. -/
theorem foldlM_each {P : σ → Prop} {Q : β → σ → Prop} {f : σ → β → Except ε σ} {items : List β}
    {s t : σ} (step : ∀ s item t, item ∈ items → P s → f s item = .ok t → P t ∧ Q item t)
    (keeps : ∀ s item t other, item ∈ items → P s → f s item = .ok t → Q other s → Q other t)
    (run : items.foldlM f s = .ok t) (start : P s) : P t ∧ ∀ item ∈ items, Q item t := by
  induction items generalizing s with
  | nil =>
    cases run
    exact ⟨start, fun _ member => absurd member List.not_mem_nil⟩
  | cons first rest ih =>
    rw [List.foldlM_cons] at run
    obtain ⟨next, one, run⟩ := bind_eq_ok.mp run
    have inside : ∀ {item}, item ∈ rest → item ∈ first :: rest := List.mem_cons_of_mem _
    obtain ⟨middle, own⟩ := step s first next List.mem_cons_self start one
    have settled : P t ∧ Q first t :=
      foldlM_invariant (P := fun s => P s ∧ Q first s)
        (fun s item t member holds ran =>
          ⟨(step s item t (inside member) holds.1 ran).1,
            keeps s item t first (inside member) holds.1 ran holds.2⟩)
        run ⟨middle, own⟩
    have others : P t ∧ ∀ item ∈ rest, Q item t :=
      ih (fun s item t member => step s item t (inside member))
        (fun s item t other member => keeps s item t other (inside member)) run middle
    exact ⟨settled.1, List.forall_mem_cons.mpr ⟨settled.2, others.2⟩⟩

/-- Two computations that both end well with related results, or that both fail for related reasons. -/
inductive Alike {δ : Type} (E : ε → δ → Prop) (P : β → γ → Prop) : Except ε β → Except δ γ → Prop
  | ok {b : β} {c : γ} : P b c → Alike E P (.ok b) (.ok c)
  | error {e : ε} {d : δ} : E e d → Alike E P (.error e) (.error d)

namespace Alike

variable {δ β' γ' : Type} {E F : ε → δ → Prop} {P : β → γ → Prop} {Q : β' → γ' → Prop}
  {x : Except ε β} {y : Except δ γ}

/-- Both end well, or both fail. -/
theorem ok_or_error (alike : Alike E P x y) :
    (∃ b c, x = .ok b ∧ y = .ok c ∧ P b c) ∨ ∃ e d, x = .error e ∧ y = .error d ∧ E e d := by
  cases alike with
  | ok related => exact Or.inl ⟨_, _, rfl, rfl, related⟩
  | error related => exact Or.inr ⟨_, _, rfl, rfl, related⟩

/-- The one ends well when the other does. -/
theorem exists_ok_iff (alike : Alike E P x y) : (∃ b, x = .ok b) ↔ ∃ c, y = .ok c := by
  rcases alike.ok_or_error with ⟨b, c, left, right, _⟩ | ⟨e, d, left, right, _⟩
  · exact ⟨fun _ => ⟨c, right⟩, fun _ => ⟨b, left⟩⟩
  · rw [left, right]
    exact ⟨nofun, nofun⟩

/-- Two steps, one after the other, on either side. -/
theorem bind {f : β → Except ε β'} {g : γ → Except δ γ'} (first : Alike E P x y)
    (rest : ∀ b c, P b c → Alike E Q (f b) (g c)) : Alike E Q (x >>= f) (y >>= g) := by
  cases first with
  | ok related => exact rest _ _ related
  | error related => exact .error related

/-- A computation ends like itself when its failures are related to themselves. -/
theorem self {E : ε → ε → Prop} (failures : ∀ e, x = .error e → E e e) : Alike E Eq x x := by
  cases x with
  | ok b => exact .ok rfl
  | error e => exact .error (failures e rfl)

end Alike

end FlightRoute
