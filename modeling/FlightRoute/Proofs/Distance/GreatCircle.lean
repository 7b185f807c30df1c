/-
**What has no position is close to nothing.**

Whatever is computed from what is no number is no number either. So is a great-circle distance from a waypoint
with a coordinate that is none, and it compares with nothing. What the program takes for the copy of a fix has a
position, therefore, whatever else is in the graph.

* `isNaN_of_not_beq`: what does not agree with itself is no number;
* `isNaN_sub`, `isNaN_mul_left`, `isNaN_mul_right`: arithmetic on what is no number;
* `greatCircle_placed`: what is within some length of a waypoint agrees with itself.
-/

import FlightRoute.Distance.GreatCircle
import FlightRoute.Proofs.Waypoint

namespace FlightRoute.Distance

open Float.Model (UnpackedFloat)

variable {x y : Float}

theorem isNaN_iff : x.isNaN = true ↔ x.toModel.unpack = .notANumber := by
  show x.toModel.unpack.isNaN = true ↔ _
  cases x.toModel.unpack with
  | notANumber => exact iff_of_true rfl rfl
  | _ => exact iff_of_false (by rintro ⟨⟩) (by rintro ⟨⟩)

/-- **What does not agree with itself** is no number. -/
theorem isNaN_of_not_beq (differs : ¬(x == x) = true) : x.isNaN = true := by
  rw [isNaN_iff]
  rw [float_beq_iff, numberOf] at differs
  cases unpacked : x.toModel.unpack with
  | notANumber => rfl
  | _ => exact absurd ⟨by rw [unpacked]; rfl, rfl⟩ differs

/-! ### Arithmetic -/

/-- A result that is no number. -/
theorem isNaN_of_packed {result : UnpackedFloat} (noNumber : result = .notANumber) :
    (Float.ofModel (.pack result)).isNaN = true := by
  rw [noNumber]
  rfl

theorem isNaN_sub (noNumber : y.isNaN = true) (x : Float) : (x - y).isNaN = true := by
  have result : UnpackedFloat.sub .binary64 x.toModel.unpack y.toModel.unpack = .notANumber := by
    rw [isNaN_iff.mp noNumber]
    cases x.toModel.unpack <;> rfl
  exact isNaN_of_packed result

theorem isNaN_add_left (noNumber : x.isNaN = true) (y : Float) : (x + y).isNaN = true := by
  have result : UnpackedFloat.add .binary64 x.toModel.unpack y.toModel.unpack = .notANumber := by
    rw [isNaN_iff.mp noNumber]
    rfl
  exact isNaN_of_packed result

theorem isNaN_add_right (noNumber : y.isNaN = true) (x : Float) : (x + y).isNaN = true := by
  have result : UnpackedFloat.add .binary64 x.toModel.unpack y.toModel.unpack = .notANumber := by
    rw [isNaN_iff.mp noNumber]
    cases x.toModel.unpack <;> rfl
  exact isNaN_of_packed result

theorem isNaN_mul_left (noNumber : x.isNaN = true) (y : Float) : (x * y).isNaN = true := by
  have result : UnpackedFloat.mul .binary64 x.toModel.unpack y.toModel.unpack = .notANumber := by
    rw [isNaN_iff.mp noNumber]
    rfl
  exact isNaN_of_packed result

theorem isNaN_mul_right (noNumber : y.isNaN = true) (x : Float) : (x * y).isNaN = true := by
  have result : UnpackedFloat.mul .binary64 x.toModel.unpack y.toModel.unpack = .notANumber := by
    rw [isNaN_iff.mp noNumber]
    cases x.toModel.unpack <;> rfl
  exact isNaN_of_packed result

theorem isNaN_div (noNumber : x.isNaN = true) (y : Float) : (x / y).isNaN = true := by
  have result : UnpackedFloat.div .binary64 x.toModel.unpack y.toModel.unpack = .notANumber := by
    rw [isNaN_iff.mp noNumber]
    rfl
  exact isNaN_of_packed result

theorem isNaN_sqrt (noNumber : x.isNaN = true) : x.sqrt.isNaN = true := by
  have result : UnpackedFloat.sqrt .binary64 x.toModel.unpack = .notANumber := by
    rw [isNaN_iff.mp noNumber]
    rfl
  exact isNaN_of_packed result

/-- What is no number is within no length. -/
theorem not_le_of_isNaN (noNumber : x.isNaN = true) (y : Float) : ¬x ≤ y := by
  intro within
  have compared : x.toModel.unpack.le y.toModel.unpack = true := of_decide_eq_true within
  rw [isNaN_iff.mp noNumber] at compared
  cases compared

/-! ### Great circles -/

/-- The sine and the arc tangent of what is no number are none. -/
structure TrigonometryKeepsNaN : Prop where
  sin : ∀ x : Float, x.isNaN = true → x.sin.isNaN = true
  atan2 : ∀ x y : Float, x.isNaN = true → (Float.atan2 x y).isNaN = true

theorem TrigonometryKeepsNaN.haversine (keeps : TrigonometryKeepsNaN) (noNumber : y.isNaN = true) (x : Float) :
    (haversine (radians (x - y))).isNaN = true :=
  isNaN_mul_left (keeps.sin _ (isNaN_div (isNaN_mul_left (isNaN_sub noNumber x) _) _)) _

/-- **What is within some length of a waypoint** agrees with itself. -/
theorem greatCircle_placed (keeps : TrigonometryKeepsNaN) {own fix : Waypoint} {length : Float}
    (near : greatCircle own fix ≤ length) : (own == own) = true := by
  have nowhere : ∀ chord : Float, chord.isNaN = true →
      ¬2.0 * earthRadius * Float.atan2 (Float.sqrt chord) (Float.sqrt (1.0 - chord)) ≤ length :=
    fun chord noNumber => not_le_of_isNaN (isNaN_mul_right (keeps.atan2 _ _ (isNaN_sqrt noNumber)) _) _
  rw [Waypoint.beq_iff]
  refine ⟨rfl, ?_, ?_⟩
  · by_contra differs
    exact nowhere _ (isNaN_add_left (keeps.haversine (isNaN_of_not_beq differs) _) _) near
  · by_contra differs
    have across := keeps.haversine (isNaN_of_not_beq differs) fix.lon
    exact nowhere _ (isNaN_add_right (isNaN_mul_right across _) _) near

end FlightRoute.Distance
