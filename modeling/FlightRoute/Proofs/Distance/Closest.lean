/-
**The first of the closest.**

`closestTo` walks over the candidates and keeps the best one so far, unless a later one is strictly
nearer. Where the lengths it compares are in order (`Distance.Ranked`) it ends with a candidate that no
other one is nearer than, and of several such candidates with the first. Exact numbers are always in
order, and so are floats as long as all of them are numbers.

* `closestTo_isSome`: there is a closest candidate when there are candidates;
* `closestTo_first`: it is the first of those at minimal distance;
* `closestTo_eq_some_iff`: nothing else is the first of those.
-/

import Mathlib.Data.List.Induction
import FlightRoute.Proofs.Distance.Exact

namespace FlightRoute

variable {α : Type} [Distance α]

/-- Of any two of the lengths one is at most the other, and what is at most a length is at most
whatever that one is at most. -/
structure Distance.Ranked (lengths : Set α) : Prop where
  total : ∀ a ∈ lengths, ∀ b ∈ lengths, Distance.le a b = true ∨ Distance.le b a = true
  trans : ∀ a ∈ lengths, ∀ b ∈ lengths, ∀ c ∈ lengths,
    Distance.le a b = true → Distance.le b c = true → Distance.le a c = true

theorem Distance.Ranked.mono {lengths fewer : Set α} (ranked : Ranked lengths)
    (within : fewer ⊆ lengths) : Ranked fewer where
  total a first b second := ranked.total a (within first) b (within second)
  trans a first b second c third :=
    ranked.trans a (within first) b (within second) c (within third)

/-- Exact numbers are in order. -/
theorem Distance.ranked_of_exact [AddCommMonoid α] [LinearOrder α] [Exact α] (lengths : Set α) :
    Ranked lengths where
  total a _ b _ := by
    simp only [le_eq, decide_eq_true_iff]
    exact le_total a b
  trans a _ b _ c _ := by
    simp only [le_eq, decide_eq_true_iff]
    exact le_trans

/-! ### What is kept -/

theorem keepClosest_cases (reference : Waypoint) (best : Option (Nat × α))
    (candidate : Waypoint × Nat) :
    keepClosest α reference best candidate = best ∨
      keepClosest α reference best candidate =
        some (candidate.2, Distance.between candidate.1 reference) := by
  unfold keepClosest
  cases best with
  | none => exact Or.inr rfl
  | some known =>
    obtain ⟨position, shortest⟩ := known
    dsimp only
    split
    · exact Or.inl rfl
    · exact Or.inr rfl

/-- The closest so far stays, or one of the candidates takes its place. -/
theorem foldl_keepClosest (reference : Waypoint) (best : Option (Nat × α))
    (candidates : List (Waypoint × Nat)) :
    candidates.foldl (keepClosest α reference) best = best ∨
      ∃ candidate ∈ candidates, candidates.foldl (keepClosest α reference) best =
        some (candidate.2, Distance.between candidate.1 reference) := by
  induction candidates generalizing best with
  | nil => exact Or.inl rfl
  | cons first rest ih =>
    rw [List.foldl_cons]
    rcases ih (keepClosest α reference best first) with kept | ⟨candidate, member, found⟩
    · rw [kept]
      refine (keepClosest_cases reference best first).imp_right fun taken => ?_
      exact ⟨first, List.mem_cons_self, taken⟩
    · exact Or.inr ⟨candidate, List.mem_cons_of_mem _ member, found⟩

/-- The closest candidate is one of them, as far from the reference as it is. -/
theorem closest_spec {reference : Waypoint} {candidates : List Waypoint} {position : Nat} {length : α}
    (found : candidates.zipIdx.foldl (keepClosest α reference) none = some (position, length)) :
    ∃ own, candidates[position]? = some own ∧ length = Distance.between own reference := by
  rcases foldl_keepClosest (α := α) reference none candidates.zipIdx with
    none | ⟨⟨own, index⟩, member, taken⟩
  · rw [found] at none
    cases none
  · rw [found] at taken
    cases taken
    exact ⟨own, List.mem_zipIdx_iff_getElem?.mp member, rfl⟩

theorem closestTo_lt {reference : Waypoint} {candidates : List Waypoint} {position : Nat}
    (found : closestTo α candidates reference = some position) : position < candidates.length := by
  obtain ⟨⟨place, length⟩, taken, rfl⟩ := Option.map_eq_some_iff.mp found
  obtain ⟨own, here, _⟩ := closest_spec taken
  exact (List.getElem?_eq_some_iff.mp here).1

/-- Candidates behind others leave the closest one, or one of them is the closest. -/
theorem closestTo_append (front back : List Waypoint) (reference : Waypoint) :
    closestTo α (front ++ back) reference = closestTo α front reference ∨
      ∃ position, front.length ≤ position ∧
        closestTo α (front ++ back) reference = some position := by
  unfold closestTo
  rw [List.zipIdx_append, List.foldl_append]
  rcases foldl_keepClosest reference (front.zipIdx.foldl (keepClosest α reference) none)
    (back.zipIdx (0 + front.length)) with same | ⟨⟨own, position⟩, member, taken⟩
  · exact Or.inl (by rw [same])
  · refine Or.inr ⟨position, ?_, by rw [taken]; rfl⟩
    simpa using List.le_snd_of_mem_zipIdx member

/-! ### The first of those at minimal distance -/

variable {candidates : List Waypoint} {reference : Waypoint} {position : Nat}

/-- How far candidates are from a reference. -/
def lengthsTo (α : Type) [Distance α] (candidates : List Waypoint) (reference : Waypoint) : Set α :=
  {length | ∃ candidate ∈ candidates, length = Distance.between candidate reference}

/-- The position and the length of the first candidate that no other one is nearer than. -/
structure FirstClosest (candidates : List Waypoint) (reference : Waypoint) (position : Nat)
    (length : α) : Prop where
  own : ∃ own, candidates[position]? = some own ∧ length = Distance.between own reference
  least : ∀ (other : Nat) (place : Waypoint), candidates[other]? = some place →
    Distance.le length (Distance.between place reference) = true
  first : ∀ (other : Nat) (place : Waypoint), candidates[other]? = some place → other < position →
    Distance.le (Distance.between place reference) length = false

/-- The best so far stays unless the candidate is nearer. -/
theorem keepClosest_some (best : Nat × α) (candidate : Waypoint × Nat) :
    keepClosest α reference (some best) candidate =
      if Distance.le best.2 (Distance.between candidate.1 reference) = true then some best
      else some (candidate.2, Distance.between candidate.1 reference) :=
  rfl

/-- The last candidate comes on top of the best of the others. -/
theorem foldl_keepClosest_concat (front : List Waypoint) (last reference : Waypoint) :
    (front ++ [last]).zipIdx.foldl (keepClosest α reference) none =
      keepClosest α reference (front.zipIdx.foldl (keepClosest α reference) none)
        (last, front.length) := by
  rw [List.zipIdx_append, List.foldl_append, Nat.zero_add]
  rfl

theorem foldl_keepClosest_isSome :
    (candidates.zipIdx.foldl (keepClosest α reference) none).isSome ↔ candidates ≠ [] := by
  induction candidates using List.reverseRecOn with
  | nil => simp
  | append_singleton front last _ =>
    rw [foldl_keepClosest_concat]
    refine iff_of_true ?_ (List.append_ne_nil_of_right_ne_nil _ (List.cons_ne_nil _ _))
    cases front.zipIdx.foldl (keepClosest α reference) none with
    | none => rfl
    | some best =>
      rw [keepClosest_some]
      split <;> rfl

/-- **There is a closest candidate** when there are candidates. -/
theorem closestTo_isSome :
    (closestTo α candidates reference).isSome ↔ candidates ≠ [] := by
  rw [closestTo, Option.isSome_map]
  exact foldl_keepClosest_isSome

theorem closestTo_eq_none_iff : closestTo α candidates reference = none ↔ candidates = [] := by
  rw [← Option.not_isSome_iff_eq_none, closestTo_isSome, not_not]

omit [Distance α] in
/-- With one more candidate each is one of the others or that one. -/
theorem concat_cases {front : List Waypoint} {last place : Waypoint}
    (there : (front ++ [last])[position]? = some place) :
    front[position]? = some place ∨ position = front.length ∧ place = last := by
  rw [List.getElem?_append] at there
  split at there
  · exact Or.inl there
  · rename_i beyond
    rw [List.getElem?_singleton] at there
    split at there
    · cases there
      exact Or.inr ⟨by omega, rfl⟩
    · cases there

variable {front : List Waypoint} {last : Waypoint} {length : α}

/-- A candidate on its own is the first of the closest. -/
theorem FirstClosest.alone (ranked : Distance.Ranked (lengthsTo α [last] reference)) :
    FirstClosest [last] reference 0 (Distance.between last reference : α) := by
  have own : (Distance.between last reference : α) ∈ lengthsTo α [last] reference :=
    ⟨last, List.mem_cons_self, rfl⟩
  refine ⟨⟨last, rfl, rfl⟩, fun other place there => ?_, fun other place _ before => ?_⟩
  · rw [List.mem_singleton.mp (List.mem_of_getElem? there)]
    exact (ranked.total _ own _ own).elim id id
  · exact absurd before (Nat.not_lt_zero other)

/-- One more candidate that is not nearer leaves the first of the closest where it is. -/
theorem FirstClosest.keep (best : FirstClosest front reference position length)
    (near : Distance.le length (Distance.between last reference) = true) :
    FirstClosest (front ++ [last]) reference position length := by
  obtain ⟨own, here, measured⟩ := best.own
  have inside : position < front.length := (List.getElem?_eq_some_iff.mp here).1
  refine ⟨⟨own, by rwa [List.getElem?_append_left inside], measured⟩,
    fun other place there => ?_, fun other place there before => ?_⟩
  · rcases concat_cases there with old | ⟨_, rfl⟩
    · exact best.least other place old
    · exact near
  · rcases concat_cases there with old | ⟨rfl, _⟩
    · exact best.first other place old before
    · exact absurd (before.trans inside) (Nat.lt_irrefl _)

/-- One that is nearer takes its place. -/
theorem FirstClosest.replace (best : FirstClosest front reference position length)
    (ranked : Distance.Ranked (lengthsTo α (front ++ [last]) reference))
    (far : Distance.le length (Distance.between last reference) = false) :
    FirstClosest (front ++ [last]) reference front.length
      (Distance.between last reference : α) := by
  obtain ⟨own, here, rfl⟩ := best.own
  have member : ∀ {other : Nat} {place : Waypoint}, front[other]? = some place →
      (Distance.between place reference : α) ∈ lengthsTo α (front ++ [last]) reference :=
    fun there => ⟨_, List.mem_append_left _ (List.mem_of_getElem? there), rfl⟩
  have new : (Distance.between last reference : α) ∈ lengthsTo α (front ++ [last]) reference :=
    ⟨last, List.mem_append_right _ List.mem_cons_self, rfl⟩
  have nearer : Distance.le (Distance.between last reference : α) (Distance.between own reference) =
      true :=
    (ranked.total _ new _ (member here)).resolve_right (by rw [far]; exact Bool.false_ne_true)
  refine ⟨⟨last, List.getElem?_concat_length, rfl⟩, fun other place there => ?_,
    fun other place there before => ?_⟩
  · rcases concat_cases there with old | ⟨_, rfl⟩
    · exact ranked.trans _ new _ (member here) _ (member old) nearer (best.least other place old)
    · exact (ranked.total _ new _ new).elim id id
  · rcases concat_cases there with old | ⟨rfl, _⟩
    · refine Bool.eq_false_of_not_eq_true fun level => ?_
      have low := ranked.trans _ (member here) _ (member old) _ new (best.least other place old) level
      rw [far] at low
      cases low
    · exact absurd before (Nat.lt_irrefl _)

/-- What is kept is the first of the closest. -/
theorem foldl_keepClosest_first (ranked : Distance.Ranked (lengthsTo α candidates reference))
    (kept : candidates.zipIdx.foldl (keepClosest α reference) none = some (position, length)) :
    FirstClosest candidates reference position length := by
  induction candidates using List.reverseRecOn generalizing position length with
  | nil => cases kept
  | append_singleton front last ih =>
    have fewer : Distance.Ranked (lengthsTo α front reference) := by
      refine ranked.mono fun length member => ?_
      obtain ⟨candidate, inside, same⟩ := member
      exact ⟨candidate, List.mem_append_left _ inside, same⟩
    rw [foldl_keepClosest_concat] at kept
    cases before : front.zipIdx.foldl (keepClosest α reference) none with
    | none =>
      rw [before] at kept
      cases kept
      have empty : front = [] := by
        by_contra nonempty
        have known : (front.zipIdx.foldl (keepClosest α reference) none).isSome :=
          foldl_keepClosest_isSome.mpr nonempty
        rw [before] at known
        cases known
      subst empty
      exact .alone ranked
    | some best =>
      rw [before, keepClosest_some] at kept
      have best := ih fewer before
      split at kept
      · rename_i near
        cases kept
        exact best.keep near
      · rename_i far
        cases kept
        exact best.replace ranked (Bool.eq_false_of_not_eq_true far)

/-- **The closest candidate** is the first of those at minimal distance. -/
theorem closestTo_first (ranked : Distance.Ranked (lengthsTo α candidates reference))
    (found : closestTo α candidates reference = some position) :
    ∃ own, candidates[position]? = some own ∧
      FirstClosest candidates reference position (Distance.between own reference : α) := by
  obtain ⟨⟨_, length⟩, kept, rfl⟩ := Option.map_eq_some_iff.mp found
  have best := foldl_keepClosest_first ranked kept
  obtain ⟨own, here, rfl⟩ := best.own
  exact ⟨own, here, best⟩

/-- No candidate before the first of the closest is one itself. -/
theorem FirstClosest.not_lt {other : Nat} {distance : α}
    (best : FirstClosest candidates reference position length)
    (also : FirstClosest candidates reference other distance) : ¬position < other := by
  obtain ⟨own, here, rfl⟩ := best.own
  obtain ⟨place, there, rfl⟩ := also.own
  intro before
  have far := also.first position own here before
  rw [best.least other place there] at far
  cases far

/-- **The closest candidate is the first of those at minimal distance**, and no other one is. -/
theorem closestTo_eq_some_iff (ranked : Distance.Ranked (lengthsTo α candidates reference)) :
    closestTo α candidates reference = some position ↔
      ∃ length : α, FirstClosest candidates reference position length := by
  constructor
  · intro found
    obtain ⟨own, _, best⟩ := closestTo_first ranked found
    exact ⟨_, best⟩
  · rintro ⟨length, best⟩
    obtain ⟨own, here, _⟩ := best.own
    have nonempty : candidates ≠ [] := List.ne_nil_of_mem (List.mem_of_getElem? here)
    obtain ⟨other, found⟩ := Option.isSome_iff_exists.mp (closestTo_isSome (α := α).mpr nonempty)
    obtain ⟨place, _, also⟩ := closestTo_first ranked found
    rw [found, Nat.le_antisymm (Nat.le_of_not_lt (best.not_lt also)) (Nat.le_of_not_lt (also.not_lt best))]

end FlightRoute
