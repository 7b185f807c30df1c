/-
**A flat earth with exact numbers.**

Coordinates are read as the rational numbers they stand for, and two waypoints are as far apart as
their latitudes and their longitudes together. These lengths are exact numbers, the distance is
symmetric, never negative, and the same for waypoints that agree: everything that is said of such
lengths can be seen at work on them, on three waypoints in a row (`crossing`).

* `parts_eq`: the parts of a float are those of the number it is unpacked to;
* `degrees_congr`: floats that compare equal stand for the same rational number.
-/

import Mathlib.Algebra.Order.Ring.Rat
import FlightRoute.Decimal.Binary
import FlightRoute.Proofs.Distance.Exact
import FlightRoute.Proofs.Graph.Built
import FlightRoute.Proofs.Waypoint

namespace FlightRoute.Distance

open Float.Model (UnpackedFloat)
open Float.Model.UnpackedFloat (Sign unpackMantissa unpackExponent unpackSign)

/-! ### The parts of a float -/

/-- Whether a sign is the negative one. -/
def isNegative : Sign → Bool
  | .negative => true
  | .positive => false

/-- The parts of an unpacked float. -/
def partsOf : UnpackedFloat → Decimal.Parts
  | .notANumber => .notNumber
  | .infinity sign => .infinite (isNegative sign)
  | .zero sign => .finite ⟨isNegative sign, 0, -1074⟩
  | .finite sign mantissa exponent _ => .finite ⟨isNegative sign, mantissa, exponent⟩

section Bits

variable (bits : BitVec 64)

theorem toNat_unpackMantissa :
    (@unpackMantissa .binary64 bits).toNat = bits.toNat % Nat.pow 2 52 := by
  unfold unpackMantissa
  rw [BitVec.toNat_cast, BitVec.extractLsb_toNat, Nat.shiftRight_zero]
  rfl

theorem toNat_unpackExponent :
    (@unpackExponent .binary64 bits).toNat = bits.toNat / Nat.pow 2 52 % Nat.pow 2 11 := by
  unfold unpackExponent
  rw [BitVec.toNat_cast, BitVec.extractLsb_toNat, Nat.shiftRight_eq_div_pow]
  rfl

theorem isNegative_unpackSign :
    isNegative (.ofBitVec (@unpackSign .binary64 bits)) = (bits.toNat / Nat.pow 2 63 == 1) := by
  have sign : (@unpackSign .binary64 bits).toNat = bits.toNat / Nat.pow 2 63 := by
    have short : bits.toNat / 2 ^ 63 < 2 := by omega
    unfold unpackSign
    rw [BitVec.toNat_cast, BitVec.extractLsb_toNat, Nat.shiftRight_eq_div_pow]
    exact Nat.mod_eq_of_lt short
  rw [← sign]
  generalize @unpackSign .binary64 bits = bit
  revert bit
  decide

/-- A mantissa with its leading bit. -/
theorem toNat_one_append (mantissa : BitVec 52) :
    (1#1 ++ mantissa).toNat = 2 ^ 52 + mantissa.toNat := by
  rw [BitVec.toNat_append, ← Nat.shiftLeft_add_eq_or_of_lt mantissa.isLt]
  rfl

end Bits

/-- **The parts of a float** are those of the number it is unpacked to. -/
theorem parts_eq (x : Float) : Decimal.parts x = partsOf x.toModel.unpack := by
  unfold Decimal.parts Float.Model.unpack UnpackedFloat.unpack
  dsimp only
  have whole : x.toBits.toNat = x.toModel.toBits.toBitVec.toNat := rfl
  rw [whole]
  generalize x.toModel.toBits.toBitVec = bits
  rw [← toNat_unpackMantissa bits, ← toNat_unpackExponent bits, ← isNegative_unpackSign bits]
  by_cases all : @unpackExponent .binary64 bits = -1#11
  · have top : (@unpackExponent .binary64 bits).toNat = 2047 := congrArg BitVec.toNat all
    rw [if_pos all, top, if_pos (beq_self_eq_true _)]
    by_cases empty : @unpackMantissa .binary64 bits = 0#52
    · rw [if_pos empty, empty]
      rfl
    · have nonzero : (@unpackMantissa .binary64 bits).toNat ≠ 0 := fun zero =>
        empty (BitVec.toNat_inj.mp zero)
      rw [if_neg empty, if_neg (by simpa using nonzero)]
      rfl
  · have below : (@unpackExponent .binary64 bits).toNat ≠ 2047 := fun top =>
      all (BitVec.toNat_inj.mp top)
    rw [if_neg all, if_neg (by simpa using below)]
    by_cases least : @unpackExponent .binary64 bits = 0#11
    · have bottom : (@unpackExponent .binary64 bits).toNat = 0 := congrArg BitVec.toNat least
      rw [if_pos least, bottom, if_pos (beq_self_eq_true _)]
      by_cases empty : @unpackMantissa .binary64 bits = 0#52
      · rw [dif_pos empty, empty]
        rfl
      · rw [dif_neg empty]
        rfl
    · have above : (@unpackExponent .binary64 bits).toNat ≠ 0 := fun zero =>
        least (BitVec.toNat_inj.mp zero)
      rw [if_neg least, if_neg (by simpa using above)]
      show _ = Decimal.Parts.finite ⟨_, (1#1 ++ @unpackMantissa .binary64 bits).toNat, _⟩
      rw [toNat_one_append]
      rfl

/-- The same number has the same parts, up to the sign of zero. -/
theorem partsOf_congr {a b : UnpackedFloat} (number : (numeral a).isSome)
    (same : numeral a = numeral b) :
    partsOf a = partsOf b ∨ ∃ sign other, partsOf a = .finite ⟨sign, 0, -1074⟩ ∧
      partsOf b = .finite ⟨other, 0, -1074⟩ := by
  cases a with
  | notANumber => cases number
  | zero sign =>
    cases b with
    | zero other => exact Or.inr ⟨_, _, rfl, rfl⟩
    | _ => cases same
  | infinity sign =>
    cases b with
    | infinity other =>
      cases same
      exact Or.inl rfl
    | _ => cases same
  | finite sign mantissa exponent positive =>
    cases b with
    | finite other =>
      cases same
      exact Or.inl rfl
    | _ => cases same

/-! ### Lengths in degrees -/

/-- The rational number of a coordinate; zero for what is no finite number. -/
def degrees (x : Float) : ℚ :=
  match Decimal.parts x with
  | .finite ⟨negative, mantissa, exponent⟩ =>
    let size : ℚ := if 0 ≤ exponent then mantissa * 2 ^ exponent.toNat
      else mkRat mantissa (2 ^ (-exponent).toNat)
    if negative then -size else size
  | _ => 0

/-- **Floats that compare equal** stand for the same rational number. -/
theorem degrees_congr {x y : Float} (same : (x == y) = true) : degrees x = degrees y := by
  obtain ⟨number, same⟩ := float_beq_iff.mp same
  unfold degrees
  rw [parts_eq, parts_eq]
  rcases partsOf_congr number same with same | ⟨sign, other, left, right⟩
  · rw [same]
  · rw [left, right]
    simp only [Rat.zero_mkRat, Nat.cast_zero, zero_mul, neg_zero, ite_self]

/-- Lengths in degrees on a flat earth. -/
instance instPlanar : Distance ℚ where
  zero := 0
  neutral := 0
  add a b := a + b
  lt a b := decide (a < b)
  le a b := decide (a ≤ b)
  order a b := compare a b
  bounded _ := true
  sameFix := 5
  between a b := |degrees a.lat - degrees b.lat| + |degrees a.lon - degrees b.lon|

instance instExactPlanar : Exact ℚ where
  zero_eq := rfl
  neutral_eq := rfl
  add_eq _ _ := rfl
  lt_eq _ _ := rfl
  le_eq _ _ := rfl
  order_eq _ _ := rfl
  bounded_eq _ := rfl

instance instSymmetricPlanar : Symmetric ℚ where
  between_comm a b := by
    show |_| + |_| = |_| + |_|
    rw [abs_sub_comm (degrees a.lat), abs_sub_comm (degrees a.lon)]

instance instCongruentPlanar : Congruent ℚ where
  between_left a b c same := by
    obtain ⟨_, lat, lon⟩ := Waypoint.beq_iff.mp same
    show |_ - _| + |_ - _| = |_ - _| + |_ - _|
    rw [degrees_congr lat, degrees_congr lon]
  between_right a b c same := by
    obtain ⟨_, lat, lon⟩ := Waypoint.beq_iff.mp same
    show |_ - _| + |_ - _| = |_ - _| + |_ - _|
    rw [degrees_congr lat, degrees_congr lon]

instance instNonnegativePlanar : Nonnegative ℚ where
  between_nonneg _ _ := add_nonneg (abs_nonneg _) (abs_nonneg _)

/-- A waypoint is as close to itself as the copy of a fix has to be. -/
theorem near_self (waypoint : Waypoint) :
    Distance.le (Distance.between waypoint waypoint) (Distance.sameFix : ℚ) = true := by
  show decide (|_ - _| + |_ - _| ≤ (5 : ℚ)) = true
  rw [sub_self, sub_self, abs_zero, add_zero]
  rfl

end FlightRoute.Distance

namespace FlightRoute

/-- Three waypoints in a row, with two short edges and a long one between the outer two. -/
def crossing : Graph ℚ :=
  let row := ((Graph.empty.addWaypoint ⟨"A", 0, 1⟩).addWaypoint ⟨"B", 0, 2⟩).addWaypoint ⟨"C", 0, 3⟩
  ((row.addEdge 0 1 "Y" none).addEdge 1 2 "Y" none).addEdge 0 2 "Z" (some 5)

theorem crossing_built : crossing.Built := by
  have row : (((Graph.empty.addWaypoint ⟨"A", 0, 1⟩).addWaypoint ⟨"B", 0, 2⟩).addWaypoint
      ⟨"C", 0, 3⟩ : Graph ℚ).Built :=
    .addWaypoint _ (.addWaypoint _ (.addWaypoint _ .empty))
  exact .addEdge 0 2 "Z" (some 5) (.addEdge 1 2 "Y" none (.addEdge 0 1 "Y" none row))

theorem crossing_exactIndex : crossing.ExactIndex := crossing_built.wellFormed.exactIndex

end FlightRoute
