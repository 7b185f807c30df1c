/-
**When waypoints agree.**

Floats compare as the numbers they stand for: both zeros stand for the same number, and what is no
number stands for none and agrees with nothing. Comparing waypoints is therefore symmetric and
transitive, but a waypoint with a coordinate that is no number does not agree with itself.
`Waypoint.Same` closes that gap: a waypoint is the same as itself and as every one it agrees with.

* `float_beq_iff`: when floats compare equal;
* `float_beq_self`: a float in range compares equal to itself;
* `float_not_lt_self`: no float is less than itself;
* `Waypoint.Same.trans`, `Waypoint.Same.ident_eq`.
-/

import Mathlib.Data.Nat.Basic
import FlightRoute.Waypoint

namespace FlightRoute

open Float.Model (UnpackedFloat)

/-! ### Floats -/

/-- The number that a float stands for, unpacked; none for what is no number. -/
def numeral : UnpackedFloat → Option UnpackedFloat
  | .notANumber => none
  | .zero _ => some (.zero .positive)
  | other => some other

theorem numeral_finite_iff {s t : UnpackedFloat.Sign} {m n : Nat} {e f : Int} {left : 0 < m}
    {right : 0 < n} :
    numeral (.finite s m e left) = numeral (.finite t n f right) ↔ s = t ∧ m = n ∧ e = f := by
  constructor
  · intro same
    cases same
    exact ⟨rfl, rfl, rfl⟩
  · rintro ⟨rfl, rfl, rfl⟩
    rfl

/-- Exponents are compared first, and then mantissas. -/
theorem compare_parts_iff {m n : Nat} {e f : Int} :
    (compare e f).then (compare m n) = .eq ↔ m = n ∧ e = f := by
  rw [Ordering.then_eq_eq, Std.LawfulEqCmp.compare_eq_iff_eq, Std.LawfulEqCmp.compare_eq_iff_eq,
    and_comm]

/-- Finite numbers compare equal when they are written alike. -/
theorem compare_finite_iff {s t : UnpackedFloat.Sign} {m n : Nat} {e f : Int} {left : 0 < m}
    {right : 0 < n} :
    UnpackedFloat.compare (.finite s m e left) (.finite t n f right) = some .eq ↔
      s = t ∧ m = n ∧ e = f := by
  cases s with
  | positive =>
    cases t with
    | positive =>
      show some ((compare e f).then (compare m n)) = some .eq ↔ _
      rw [Option.some_inj, compare_parts_iff, eq_self, true_and]
    | negative => exact iff_of_false (by rintro ⟨⟩) (by rintro ⟨⟨⟩, _⟩)
  | negative =>
    cases t with
    | positive => exact iff_of_false (by rintro ⟨⟩) (by rintro ⟨⟨⟩, _⟩)
    | negative =>
      show some ((compare e f).then (compare m n)).swap = some .eq ↔ _
      rw [Option.some_inj, Ordering.swap_eq_eq, compare_parts_iff, eq_self, true_and]

/-- Unpacked floats compare equal when they stand for the same number. -/
theorem unpacked_beq_iff {a b : UnpackedFloat} :
    a.beq b = true ↔ (numeral a).isSome ∧ numeral a = numeral b := by
  show (a.compare b == some .eq) = true ↔ _
  rw [beq_iff_eq]
  cases a with
  | notANumber => exact iff_of_false (by rintro ⟨⟩) (by rintro ⟨⟨⟩, _⟩)
  | infinity s =>
    cases s <;> cases b with
    | infinity t =>
      cases t <;> first
        | exact iff_of_true rfl ⟨rfl, rfl⟩
        | exact iff_of_false (by rintro ⟨⟩) (by rintro ⟨_, ⟨⟩⟩)
    | _ => exact iff_of_false (by rintro ⟨⟩) (by rintro ⟨_, ⟨⟩⟩)
  | zero s =>
    cases b with
    | zero t => exact ⟨fun _ => ⟨rfl, rfl⟩, fun _ => rfl⟩
    | notANumber => exact iff_of_false (by rintro ⟨⟩) (by rintro ⟨_, ⟨⟩⟩)
    | _ t => cases t <;> exact iff_of_false (by rintro ⟨⟩) (by rintro ⟨_, ⟨⟩⟩)
  | finite s m e left =>
    cases b with
    | finite t n f right =>
      rw [compare_finite_iff, numeral_finite_iff]
      exact (and_iff_right rfl).symm
    | notANumber => exact iff_of_false (by rintro ⟨⟩) (by rintro ⟨_, ⟨⟩⟩)
    | zero t => cases s <;> exact iff_of_false (by rintro ⟨⟩) (by rintro ⟨_, ⟨⟩⟩)
    | infinity t => cases t <;> exact iff_of_false (by rintro ⟨⟩) (by rintro ⟨_, ⟨⟩⟩)

/-- The number that a float stands for. -/
def numberOf (x : Float) : Option UnpackedFloat := numeral x.toModel.unpack

/-- **Floats compare equal when they stand for the same number.** -/
theorem float_beq_iff {x y : Float} :
    (x == y) = true ↔ (numberOf x).isSome ∧ numberOf x = numberOf y := by
  show x.toModel.unpack.beq y.toModel.unpack = true ↔ _
  exact unpacked_beq_iff

theorem float_beq_symm {x y : Float} (same : (x == y) = true) : (y == x) = true := by
  rw [float_beq_iff] at same ⊢
  exact ⟨same.2 ▸ same.1, same.2.symm⟩

theorem float_beq_trans {x y z : Float} (first : (x == y) = true) (second : (y == z) = true) :
    (x == z) = true := by
  rw [float_beq_iff] at first second ⊢
  exact ⟨first.1, first.2.trans second.2⟩

/-- **No float is less than itself**: what is no number does not compare, and all else is equal to
itself. -/
theorem float_not_lt_self (x : Float) : ¬x < x := by
  have unpacked : x < x ↔ x.toModel.unpack.compare x.toModel.unpack = some .lt := by
    show decide (x.toModel < x.toModel) = true ↔ _
    rw [decide_eq_true_iff]
    exact beq_iff_eq
  rw [unpacked]
  cases x.toModel.unpack with
  | notANumber => decide
  | infinity sign => cases sign <;> decide
  | zero sign => cases sign <;> decide
  | finite sign mantissa exponent positive =>
    rw [compare_finite_iff.mpr ⟨rfl, rfl, rfl⟩]
    decide

/-- What is not larger than a bound, in either direction, is a number. -/
theorem float_beq_self {x bound : Float} (within : x.abs ≤ bound) : (x == x) = true := by
  rw [float_beq_iff]
  refine ⟨?_, rfl⟩
  unfold numberOf
  cases unpacked : x.toModel.unpack with
  | notANumber =>
    have still : x.abs.toModel.unpack = .notANumber := by
      show (Float.Model.pack x.toModel.unpack.abs).unpack = .notANumber
      rw [unpacked]
      rfl
    have outside : x.abs.le bound = false := by
      show decide (x.abs.toModel.unpack.le bound.toModel.unpack = true) = false
      rw [still]
      rfl
    exact absurd (outside.symm.trans within) Bool.false_ne_true
  | _ => rfl

/-! ### Waypoints -/

namespace Waypoint

instance instPartialEquivBEq : PartialEquivBEq Waypoint where
  symm {a b} same := by
    rw [beq_iff] at same ⊢
    exact ⟨same.1.symm, float_beq_symm same.2.1, float_beq_symm same.2.2⟩
  trans {a b c} first second := by
    rw [beq_iff] at first second ⊢
    exact ⟨first.1.trans second.1, float_beq_trans first.2.1 second.2.1,
      float_beq_trans first.2.2 second.2.2⟩

/-- Waypoints that are one and the same or agree. -/
def Same (a b : Waypoint) : Prop := a = b ∨ (a == b) = true

theorem Same.refl (a : Waypoint) : Same a a := Or.inl rfl

theorem Same.trans {a b c : Waypoint} (first : Same a b) (second : Same b c) : Same a c := by
  rcases first with rfl | first
  · exact second
  · rcases second with rfl | second
    · exact Or.inr first
    · exact Or.inr (BEq.trans first second)

/-- Waypoints that are the same agree with the same others. -/
theorem Same.beq_right {a b : Waypoint} (same : Same a b) (other : Waypoint) :
    (other == a) = (other == b) := by
  rcases same with rfl | same
  · rfl
  · exact BEq.congr_right same

/-- Waypoints that are the same carry the same identifier. -/
theorem Same.ident_eq {a b : Waypoint} (same : Same a b) : a.ident = b.ident := by
  rcases same with rfl | same
  · rfl
  · exact ident_eq_of_beq same

end Waypoint

end FlightRoute
