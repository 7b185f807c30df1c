/-
**The agenda in order.**

Entries are entered at their place. Where costs are exact numbers the agenda therefore stays sorted
by cost, and nothing on it is lost.

* `mem_enter`: what stands on the agenda behind an entry;
* `sorted_enter`: it stays sorted by cost.
-/

import Mathlib.Order.Compare
import FlightRoute.Proofs.Distance.Exact
import FlightRoute.Search.Agenda

namespace FlightRoute.Search

variable {α : Type} [Distance α]

theorem mem_enter {entry other : Entry α} {agenda : List (Entry α)} :
    other ∈ enter entry agenda ↔ other = entry ∨ other ∈ agenda := by
  induction agenda with
  | nil => simp [enter]
  | cons first rest ih =>
    rw [enter]
    split
    · rw [List.mem_cons]
    · rw [List.mem_cons, List.mem_cons, ih]
      exact or_left_comm

/-- The costs on an agenda, in increasing order. -/
def Sorted [LE α] (agenda : List (Entry α)) : Prop :=
  agenda.Pairwise fun earlier later => earlier.cost ≤ later.cost

section Exact

variable [AddCommMonoid α] [LinearOrder α] [Distance.Exact α]

/-- An entry that comes up before another costs no more, one that does not costs no less. -/
theorem Entry.cost_le_of_before {a b : Entry α} :
    (a.before b = true → a.cost ≤ b.cost) ∧ (a.before b = false → b.cost ≤ a.cost) := by
  rw [Entry.before, Distance.order_eq]
  rcases lt_trichotomy a.cost b.cost with less | same | more
  · rw [compare_lt_iff_lt.mpr less]
    exact ⟨fun _ => less.le, by simp⟩
  · exact ⟨fun _ => same.le, fun _ => same.ge⟩
  · rw [compare_gt_iff_gt.mpr more]
    exact ⟨by simp, fun _ => more.le⟩

theorem sorted_enter {entry : Entry α} {agenda : List (Entry α)} (sorted : Sorted agenda) :
    Sorted (enter entry agenda) := by
  induction agenda with
  | nil => exact List.pairwise_singleton _ _
  | cons first rest ih =>
    obtain ⟨least, restSorted⟩ := List.pairwise_cons.mp sorted
    rw [enter]
    split
    · rename_i before
      have low : entry.cost ≤ first.cost := Entry.cost_le_of_before.1 before
      refine List.pairwise_cons.mpr ⟨fun other member => ?_, sorted⟩
      rcases List.mem_cons.mp member with rfl | member
      · exact low
      · exact low.trans (least other member)
    · rename_i behind
      have high : first.cost ≤ entry.cost :=
        Entry.cost_le_of_before.2 (Bool.not_eq_true _ ▸ behind)
      refine List.pairwise_cons.mpr ⟨fun other member => ?_, ih restSorted⟩
      rcases mem_enter.mp member with rfl | member
      · exact high
      · exact least other member

end Exact

end FlightRoute.Search
