/-
**Floats that are numbers are in order.**

A float that is a number stands at a place: first by its sign and whether it is infinite, then by its exponent, then
by its mantissa, the last two backwards below zero. Comparing two such floats compares their places; both zeros
stand at the same one. Lengths that are floats are therefore in order (`Distance.Ranked`) as long as all of them
are numbers.

* `compare_eq_place`: floats compare as their places do;
* `ranked_of_numbers`: lengths that are numbers are in order.
-/

import Mathlib.Algebra.Order.Ring.Int
import Mathlib.Data.Nat.Cast.Order.Ring
import Mathlib.Order.Compare
import FlightRoute.Proofs.Distance.Closest
import FlightRoute.Proofs.Distance.GreatCircle

namespace FlightRoute.Distance

open Float.Model (UnpackedFloat)

/-- Where an unpacked number stands: sign and size, exponent, mantissa. -/
def placeOf : UnpackedFloat → Int × Int × Int
  | .notANumber => (3, 0, 0)
  | .infinity .negative => (-2, 0, 0)
  | .finite .negative mantissa exponent _ => (-1, -exponent, -mantissa)
  | .zero _ => (0, 0, 0)
  | .finite .positive mantissa exponent _ => (1, exponent, mantissa)
  | .infinity .positive => (2, 0, 0)

/-- Places compare part by part. -/
def comparePlaces : Int × Int × Int → Int × Int × Int → Ordering :=
  compareLex (compareOn (·.1)) (compareLex (compareOn (·.2.1)) (compareOn (·.2.2)))

instance instTransCmpPlaces : Std.TransCmp comparePlaces := by
  unfold comparePlaces
  infer_instance

/-- Above zero exponents are compared first, and then mantissas. -/
theorem comparePlaces_positive (m n : Nat) (e f : Int) :
    comparePlaces (1, e, m) (1, f, n) = (compare e f).then (compare m n) := by
  have mantissas : compare (m : Int) n = compare m n := by
    rw [← cmp_eq_compare, ← cmp_eq_compare]
    exact Nat.strictMono_cast.cmp_map_eq m n
  rw [← mantissas]
  rfl

/-- Below zero both are compared backwards. -/
theorem comparePlaces_negative (m n : Nat) (e f : Int) :
    comparePlaces (-1, -e, -m) (-1, -f, -n) = ((compare e f).then (compare m n)).swap := by
  have backwards : ∀ a b : Int, compare (-a) (-b) = compare b a := by
    intro a b
    rw [← cmp_eq_compare, ← cmp_eq_compare]
    exact StrictAnti.cmp_map_eq (fun _ _ => Int.neg_lt_neg) a b
  rw [← comparePlaces_positive, ← Std.OrientedCmp.eq_swap]
  show (compare (-e) (-f)).then (compare (-m : Int) (-n)) = (compare f e).then (compare (n : Int) m)
  rw [backwards, backwards]

/-- **Floats compare as their places do.** -/
theorem compare_eq_place {a b : UnpackedFloat} (left : a ≠ .notANumber) (right : b ≠ .notANumber) :
    a.compare b = some (comparePlaces (placeOf a) (placeOf b)) := by
  cases a with
  | notANumber => exact absurd rfl left
  | infinity s =>
    cases b with
    | notANumber => exact absurd rfl right
    | infinity t => cases s <;> cases t <;> rfl
    | zero t => cases s <;> rfl
    | finite t n f positive => cases s <;> cases t <;> rfl
  | zero s =>
    cases b with
    | notANumber => exact absurd rfl right
    | infinity t => cases t <;> rfl
    | zero t => rfl
    | finite t n f positive => cases t <;> rfl
  | finite s m e positive =>
    cases b with
    | notANumber => exact absurd rfl right
    | infinity t => cases s <;> cases t <;> rfl
    | zero t => cases s <;> rfl
    | finite t n f above =>
      cases s with
      | positive =>
        cases t with
        | positive => exact congrArg some (comparePlaces_positive m n e f).symm
        | negative => rfl
      | negative =>
        cases t with
        | positive => rfl
        | negative => exact congrArg some (comparePlaces_negative m n e f).symm

/-- What is at most another float stands no later. -/
theorem le_iff_place {x y : Float} (left : x.isNaN = false) (right : y.isNaN = false) :
    Distance.le x y = true ↔
      (comparePlaces (placeOf x.toModel.unpack) (placeOf y.toModel.unpack)).isLE = true := by
  have number : ∀ {z : Float}, z.isNaN = false → z.toModel.unpack ≠ .notANumber := by
    intro z known isNaN
    rw [isNaN_iff.mpr isNaN] at known
    cases known
  have compared : Distance.le x y = true ↔ x.toModel.unpack.le y.toModel.unpack = true := by
    show decide (x ≤ y) = true ↔ _
    exact ⟨fun within => of_decide_eq_true (of_decide_eq_true within),
      fun within => decide_eq_true (decide_eq_true within)⟩
  rw [compared, UnpackedFloat.le, compare_eq_place (number left) (number right), Option.any_some]

/-- **Lengths that are numbers are in order.** -/
theorem ranked_of_numbers {lengths : Set Float} (numbers : ∀ length ∈ lengths, length.isNaN = false) :
    Ranked lengths where
  total a first b second := by
    rw [le_iff_place (numbers a first) (numbers b second),
      le_iff_place (numbers b second) (numbers a first)]
    have swapped : comparePlaces (placeOf a.toModel.unpack) (placeOf b.toModel.unpack) =
        (comparePlaces (placeOf b.toModel.unpack) (placeOf a.toModel.unpack)).swap :=
      Std.OrientedCmp.eq_swap
    rw [swapped]
    cases comparePlaces (placeOf b.toModel.unpack) (placeOf a.toModel.unpack) <;> decide
  trans a first b second c third := by
    rw [le_iff_place (numbers a first) (numbers b second),
      le_iff_place (numbers b second) (numbers c third),
      le_iff_place (numbers a first) (numbers c third)]
    exact Std.TransCmp.isLE_trans

end FlightRoute.Distance
