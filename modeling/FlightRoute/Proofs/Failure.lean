/-
**Why a computation may fail.**

Most of what can fail can fail for a few reasons only. `FailsOnly reason x` says that `x` fails for no other
reason, and nothing about what it gives when it ends well. It is put together as the program is, step by
step; each later step may rely on the result of those before it.

* `FailsOnly.bind`, `FailsOnly.foldlM`, `FailsOnly.mapM`: steps one after the other;
* `FailsOnly.mono`: fewer reasons are reasons too;
* `FailsOnly.exists_ok`: what has no reason to fail ends well;
* `CalledOff`, `checkCancel_failsOnly`: a look at the flag;
* `Malformed`, `Orderly`: failures that are due to the text of a route, or at least to the request;
* `Tolerant`, `Lenient`: reasons that leave out nothing but what is looked up.
-/

import FlightRoute.Cancel
import FlightRoute.Proofs.Except

namespace FlightRoute

variable {β γ : Type} {reason other : RouteError → Prop} {x : Except RouteError β}

/-- A computation that fails for certain reasons only. -/
def FailsOnly (reason : RouteError → Prop) (x : Except RouteError β) : Prop :=
  ∀ failure, x = .error failure → reason failure

namespace FailsOnly

theorem ok (b : β) : FailsOnly reason (.ok b) := nofun

theorem of_ok {b : β} (ran : x = .ok b) : FailsOnly reason x := ran ▸ ok b

theorem error {failure : RouteError} (holds : reason failure) :
    FailsOnly reason (.error failure : Except RouteError β) := by
  intro same failed
  cases failed
  exact holds

theorem mono (only : FailsOnly reason x) (implies : ∀ failure, reason failure → other failure) :
    FailsOnly other x :=
  fun failure failed => implies failure (only failure failed)

/-- What has no reason to fail ends well. -/
theorem exists_ok (only : FailsOnly reason x) (never : ∀ failure, ¬reason failure) :
    ∃ b, x = .ok b := by
  cases run : x with
  | ok b => exact ⟨b, rfl⟩
  | error failure => exact absurd (only failure run) (never failure)

/-- Two steps, one after the other. -/
theorem bind {f : β → Except RouteError γ} (first : FailsOnly reason x)
    (rest : ∀ b, x = .ok b → FailsOnly reason (f b)) : FailsOnly reason (x >>= f) := by
  intro failure failed
  rcases bind_eq_error.mp failed with here | ⟨b, ran, there⟩
  · exact first failure here
  · exact rest b ran failure there

theorem map (first : FailsOnly reason x) (f : β → γ) : FailsOnly reason (x.map f) := by
  cases x with
  | ok b => exact ok _
  | error failure => exact error (first failure rfl)

/-- A loop, of which every step keeps what the steps rely on. -/
theorem foldlM {P : γ → Prop} {f : γ → β → Except RouteError γ} {items : List β} {state : γ}
    (step : ∀ state item, item ∈ items → P state → FailsOnly reason (f state item))
    (keeps : ∀ state item next, item ∈ items → P state → f state item = .ok next → P next)
    (start : P state) : FailsOnly reason (items.foldlM f state) := by
  induction items generalizing state with
  | nil => exact ok state
  | cons item rest ih =>
    rw [List.foldlM_cons]
    refine bind (step state item List.mem_cons_self start) fun next ran => ?_
    refine ih (fun s item' member => step s item' (List.mem_cons_of_mem _ member))
      (fun s item' t member => keeps s item' t (List.mem_cons_of_mem _ member)) ?_
    exact keeps state item next List.mem_cons_self start ran

theorem mapM {f : β → Except RouteError γ} {items : List β}
    (step : ∀ item ∈ items, FailsOnly reason (f item)) : FailsOnly reason (items.mapM f) := by
  induction items with
  | nil => exact ok []
  | cons item rest ih =>
    rw [List.mapM_cons]
    refine bind (step item List.mem_cons_self) fun _ _ => bind ?_ fun _ _ => ok _
    exact ih fun other member => step other (List.mem_cons_of_mem _ member)

end FailsOnly

/-- The failure of a search that is called off. -/
def CalledOff (cancel : Option CancelFlag) (failure : RouteError) : Prop :=
  failure = .cancelled ∧ checkCancel cancel = .error failure

/-- A look at the flag. -/
theorem checkCancel_failsOnly (cancel : Option CancelFlag) :
    FailsOnly (CalledOff cancel) (checkCancel cancel) := by
  intro failure failed
  refine ⟨?_, failed⟩
  cases cancel with
  | none => cases failed
  | some flag =>
    obtain ⟨raised⟩ := flag
    cases raised
    · cases failed
    · cases failed
      rfl

/-- A search whose flag is not raised is not called off. -/
theorem not_calledOff {cancel : Option CancelFlag} (calm : checkCancel cancel = .ok ())
    (failure : RouteError) : ¬CalledOff cancel failure := by
  rintro ⟨_, raised⟩
  rw [calm] at raised
  cases raised

/-- The text of the route is malformed. -/
def Malformed (failure : RouteError) : Prop := ∃ fault, failure = .grammar fault

/-- A failure that says something about the request, and not that a number stands for nothing. -/
def Orderly (failure : RouteError) : Prop := ∀ index, failure ≠ .outOfRange index

/-- Reasons that leave out nothing but what is looked up, in the graph or among the procedures. -/
structure Tolerant (reason : RouteError → Prop) : Prop where
  malformed : ∀ fault, reason (.grammar fault)
  noPath : ∀ origin destination, reason (.noPath origin destination)
  mismatch : ∀ left right, reason (.connectionMismatch left right)
  unknownRunway : ∀ icao runway, reason (.unknownRunway icao runway)
  store : ∀ fault, reason (.store fault)
  cancelled : reason .cancelled

/-- Reasons that leave out nothing but what is looked up in the graph, by a name or by a number. -/
structure Lenient (reason : RouteError → Prop) : Prop extends Tolerant reason where
  unpublished : ∀ name runway, reason (.procedureNotFound name runway)

theorem Lenient.mono (lenient : Lenient reason) (implies : ∀ failure, reason failure → other failure) :
    Lenient other where
  malformed fault := implies _ (lenient.malformed fault)
  noPath origin destination := implies _ (lenient.noPath origin destination)
  mismatch left right := implies _ (lenient.mismatch left right)
  unknownRunway icao runway := implies _ (lenient.unknownRunway icao runway)
  unpublished name runway := implies _ (lenient.unpublished name runway)
  store fault := implies _ (lenient.store fault)
  cancelled := implies _ lenient.cancelled

theorem lenient_orderly : Lenient Orderly where
  malformed _ _ := nofun
  noPath _ _ _ := nofun
  mismatch _ _ _ := nofun
  unknownRunway _ _ _ := nofun
  unpublished _ _ _ := nofun
  store _ _ := nofun
  cancelled _ := nofun

theorem Malformed.tolerated {failure : RouteError} (tolerant : Tolerant reason)
    (malformed : Malformed failure) : reason failure := by
  obtain ⟨fault, rfl⟩ := malformed
  exact tolerant.malformed fault

theorem CalledOff.tolerated {cancel : Option CancelFlag} {failure : RouteError}
    (tolerant : Tolerant reason) (off : CalledOff cancel failure) : reason failure :=
  off.1 ▸ tolerant.cancelled

end FlightRoute
