/-
**The way back is as long as the way out.**

Turning a leg around swaps the coordinates that are subtracted, which negates their difference, or
leaves it as it is where it is zero or no number. Rounding keeps the sign apart from everything else, so
products and quotients of what is negated are negated. An odd sine makes an angle and its opposite
alike, therefore, and great circles are as long in either direction.

* `float_sub_swap`, `float_neg_mul`, `float_neg_div`: arithmetic on what is negated;
* `greatCircle_comm`, `symmetric_of_odd`: great circles.
-/

import FlightRoute.Distance.GreatCircle
import FlightRoute.Proofs.Distance.Exact
import FlightRoute.Proofs.Distance.Packing

namespace FlightRoute.Distance

open Float.Model (UnpackedFloat)
open Float.Model.UnpackedFloat (Sign)

/-! ### Arithmetic on what is negated -/

section Signs

variable (s t : Sign)

theorem sign_neg_neg : - -s = s := by
  cases s <;> rfl

theorem sign_neg_mul : -s * t = -(s * t) := by
  cases s <;> cases t <;> rfl

theorem sign_mul_comm : s * t = t * s := by
  cases s <;> cases t <;> rfl

theorem sign_neg_div : -s / t = -(s / t) := by
  cases s <;> cases t <;> rfl

end Signs

/-- **Rounding keeps the sign apart.** -/
theorem roundWithAccuracy_neg (sign : Sign) (mantissa : Nat) (exponent : Int)
    (accuracy : UnpackedFloat.Accuracy) :
    UnpackedFloat.roundWithAccuracy .binary64 (-sign) mantissa exponent accuracy =
      (UnpackedFloat.roundWithAccuracy .binary64 sign mantissa exponent accuracy).neg := by
  unfold UnpackedFloat.roundWithAccuracy
  simp only
  split_ifs <;> rfl

theorem round_neg (sign : Sign) (mantissa : Nat) (exponent : Int) :
    UnpackedFloat.round .binary64 (-sign) mantissa exponent =
      (UnpackedFloat.round .binary64 sign mantissa exponent).neg := by
  unfold UnpackedFloat.round
  exact roundWithAccuracy_neg ..

variable (a b : UnpackedFloat)

theorem mul_neg_left :
    UnpackedFloat.mul .binary64 a.neg b = (UnpackedFloat.mul .binary64 a b).neg := by
  cases a <;> cases b <;> simp only [UnpackedFloat.mul, UnpackedFloat.neg, sign_neg_mul]
  exact roundWithAccuracy_neg ..

theorem mul_swap : UnpackedFloat.mul .binary64 a b = UnpackedFloat.mul .binary64 b a := by
  cases a <;> cases b <;> simp only [UnpackedFloat.mul, sign_mul_comm, Nat.mul_comm, Int.add_comm]

theorem div_neg_left :
    UnpackedFloat.div .binary64 a.neg b = (UnpackedFloat.div .binary64 a b).neg := by
  cases a <;> cases b <;> simp only [UnpackedFloat.div, UnpackedFloat.neg, sign_neg_div]
  exact roundWithAccuracy_neg ..

/-- What is rounded from the opposite number is negated, unless the number is zero. -/
theorem normalize_neg (mantissa exponent : Int) :
    UnpackedFloat.normalize .binary64 (-mantissa) exponent .positive =
        UnpackedFloat.normalize .binary64 mantissa exponent .positive ∨
      UnpackedFloat.normalize .binary64 (-mantissa) exponent .positive =
        (UnpackedFloat.normalize .binary64 mantissa exponent .positive).neg := by
  unfold UnpackedFloat.normalize
  rcases lt_trichotomy mantissa 0 with below | rfl | above
  · have opposite : compare (-mantissa) 0 = .gt := compare_gt_iff_gt.mpr (Int.neg_pos_of_neg below)
    rw [compare_lt_iff_lt.mpr below, opposite]
    exact Or.inr (round_neg .negative _ exponent)
  · exact Or.inl rfl
  · have opposite : compare (-mantissa) 0 = .lt := compare_lt_iff_lt.mpr (Int.neg_neg_of_pos above)
    rw [compare_gt_iff_gt.mpr above, opposite, Int.neg_neg]
    exact Or.inr (round_neg .positive _ exponent)

/-- **What is subtracted the other way round** is negated, or the same. -/
theorem sub_swap : UnpackedFloat.sub .binary64 b a = UnpackedFloat.sub .binary64 a b ∨
    UnpackedFloat.sub .binary64 b a = (UnpackedFloat.sub .binary64 a b).neg := by
  cases a with
  | notANumber => cases b <;> exact Or.inl rfl
  | infinity s =>
    cases b with
    | notANumber => exact Or.inl rfl
    | infinity t => cases s <;> cases t <;> first | exact Or.inl rfl | exact Or.inr rfl
    | _ => exact Or.inr rfl
  | zero s =>
    cases b with
    | notANumber => exact Or.inl rfl
    | zero t => cases s <;> cases t <;> first | exact Or.inl rfl | exact Or.inr rfl
    | _ t => cases t <;> exact Or.inr rfl
  | finite s m e left =>
    cases b with
    | notANumber => exact Or.inl rfl
    | infinity t => cases t <;> exact Or.inr rfl
    | zero t => cases s <;> exact Or.inr rfl
    | finite t n f right =>
      simp only [UnpackedFloat.sub, Int.min_comm f e]
      rw [← Int.neg_sub]
      exact normalize_neg _ _

/-! ### Floats -/

variable (x y : Float)

theorem float_neg_mul : -x * y = -(x * y) := by
  show Float.ofModel (.pack (UnpackedFloat.mul .binary64 (-x).toModel.unpack _)) = _
  rw [unpack_neg, mul_neg_left]
  exact (neg_ofModel _).symm

theorem float_mul_comm : x * y = y * x :=
  congrArg (fun value => Float.ofModel (.pack value)) (mul_swap _ _)

theorem float_neg_div : -x / y = -(x / y) := by
  show Float.ofModel (.pack (UnpackedFloat.div .binary64 (-x).toModel.unpack _)) = _
  rw [unpack_neg, div_neg_left]
  exact (neg_ofModel _).symm

theorem float_neg_neg : - -x = x := by
  show Float.ofModel (.pack (-x).toModel.unpack.neg) = x
  rw [unpack_neg]
  have twice (value : UnpackedFloat) : value.neg.neg = value := by
    cases value <;> simp only [UnpackedFloat.neg, sign_neg_neg]
  rw [twice]
  exact ofModel_pack_unpack x

theorem float_sub_swap : y - x = x - y ∨ y - x = -(x - y) := by
  rcases sub_swap x.toModel.unpack y.toModel.unpack with same | opposite
  · exact Or.inl (congrArg (fun value => Float.ofModel (.pack value)) same)
  · refine Or.inr ((congrArg (fun value => Float.ofModel (.pack value)) opposite).trans ?_)
    exact (neg_ofModel _).symm

/-! ### Great circles -/

/-- With an odd sine an angle and its opposite are alike. -/
theorem haversine_swap (odd : ∀ x : Float, (-x).sin = -x.sin) :
    haversine (radians (y - x)) = haversine (radians (x - y)) := by
  rcases float_sub_swap x y with same | opposite
  · rw [same]
  · rw [opposite]
    unfold haversine radians
    simp only
    rw [float_neg_mul, float_neg_div, odd, float_neg_mul, float_mul_comm, float_neg_mul,
      float_neg_neg]

/-- **Great circles are as long in either direction**, as long as the sine is odd. -/
theorem greatCircle_comm (odd : ∀ x : Float, (-x).sin = -x.sin) (a b : Waypoint) :
    greatCircle a b = greatCircle b a := by
  unfold greatCircle
  rw [haversine_swap a.lat b.lat odd, haversine_swap a.lon b.lon odd,
    float_mul_comm (Float.cos (radians a.lat))]

/-- Lengths along great circles are those of a metric in this respect. -/
theorem symmetric_of_odd (odd : ∀ x : Float, (-x).sin = -x.sin) : Symmetric Float where
  between_comm := greatCircle_comm odd

end FlightRoute.Distance
