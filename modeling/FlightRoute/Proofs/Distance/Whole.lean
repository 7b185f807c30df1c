/-
**Whole numbers are floats.**

A whole number of at most 53 binary digits fits a mantissa, and nothing of it is rounded away: moved to
the exponent that belongs to it, it loses zeros only. So it is a float, such floats add up to the float
of the sum and compare as the numbers do, and digits without a point denote the number that they spell.

* `roundWithAccuracy_exact`: rounding keeps what fits;
* `IsWhole`: a float that stands for a whole number, with `IsWhole.add`, `IsWhole.le_iff`,
  `IsWhole.degrees_eq`;
* `isWhole_decimal`: digits.
-/

import FlightRoute.Proofs.Distance.Packing
import FlightRoute.Proofs.Distance.Planar
import FlightRoute.Text.Digits

namespace FlightRoute.Distance

open Float.Model (UnpackedFloat Format)
open Float.Model.UnpackedFloat (Sign ExtendedMantissa pack unpack)

/-! ### Rounding -/

/-- Zeros at the end of a mantissa are shifted out of it. -/
theorem shiftRight_exact (mantissa shift : Nat) :
    (⟨mantissa * 2 ^ shift, false, false⟩ : ExtendedMantissa) >>> shift =
      ⟨mantissa, false, false⟩ := by
  induction shift generalizing mantissa with
  | zero => exact congrArg (ExtendedMantissa.mk · false false) (Nat.mul_one mantissa)
  | succ shift ih =>
    show ExtendedMantissa.shiftRightOne ((_ : ExtendedMantissa) >>> shift) = _
    rw [Nat.pow_succ', ← Nat.mul_assoc, ih]
    simp [ExtendedMantissa.shiftRightOne]

section Exact

variable {mantissa : Nat} {exponent : Int}

theorem log2_mul_two_pow (positive : 0 < mantissa) (shift : Nat) :
    (mantissa * 2 ^ shift).log2 = mantissa.log2 + shift := by
  induction shift with
  | zero => rw [Nat.pow_zero, Nat.mul_one, Nat.add_zero]
  | succ shift ih =>
    have nonzero : mantissa * 2 ^ shift ≠ 0 :=
      Nat.ne_of_gt (Nat.mul_pos positive (Nat.two_pow_pos shift))
    rw [Nat.pow_succ', Nat.mul_left_comm, Nat.log2_two_mul nonzero, ih]
    rfl

/-- A mantissa of full length is moved back to the exponent that belongs to it. -/
theorem shiftToTargetExponent_exact (full : mantissa.log2 = 52) (low : -1074 ≤ exponent)
    (positive : 0 < mantissa) (shift : Nat) :
    UnpackedFloat.shiftToTargetExponent .binary64 (mantissa * 2 ^ shift) (exponent - shift) .exact =
      (⟨mantissa, false, false⟩, exponent) := by
  have target : Format.binary64.targetExponent
      (Float.Model.totalExponent (mantissa * 2 ^ shift) (exponent - shift)) = exponent := by
    unfold Float.Model.totalExponent Format.targetExponent
    rw [log2_mul_two_pow positive, full]
    show max _ (-1074) = exponent
    show max ((((52 + shift : Nat) : Int) + 1 + (exponent - shift)) - (53 : Nat)) (-1074) = exponent
    omega
  unfold UnpackedFloat.shiftToTargetExponent UnpackedFloat.shiftToExponent
  have amount : (exponent - (exponent - shift)).toNat = shift := by omega
  simp only [target, amount]
  exact congrArg₂ Prod.mk (shiftRight_exact mantissa shift) (Int.sub_add_cancel exponent shift)

/-- **Rounding keeps what fits.** -/
theorem roundWithAccuracy_exact (sign : Sign) (full : mantissa.log2 = 52) (low : -1074 ≤ exponent)
    (positive : 0 < mantissa) (shift : Nat) :
    UnpackedFloat.roundWithAccuracy .binary64 sign (mantissa * 2 ^ shift) (exponent - shift) .exact =
      .finite sign mantissa exponent positive := by
  have again := shiftToTargetExponent_exact full low positive 0
  rw [Nat.pow_zero, Nat.mul_one, Int.natCast_zero, Int.sub_zero] at again
  unfold UnpackedFloat.roundWithAccuracy
  simp only [shiftToTargetExponent_exact full low positive shift, ExtendedMantissa.roundedMantissa,
    ExtendedMantissa.accuracy, UnpackedFloat.Accuracy.roundToNearestEven, again]
  exact dif_neg (Nat.ne_of_gt positive)

end Exact

/-! ### Whole numbers -/

section Numbers

variable {m n : Nat}

theorem log2_short (positive : 0 < n) (small : n < 2 ^ 53) : n.log2 < 53 :=
  (Nat.log2_lt (Nat.ne_of_gt positive)).mpr small

/-- With zeros behind it a whole number has a mantissa of full length. -/
theorem log2_full (positive : 0 < n) (small : n < 2 ^ 53) : (n * 2 ^ (52 - n.log2)).log2 = 52 := by
  have short := log2_short positive small
  rw [log2_mul_two_pow positive]
  omega

/-- **A whole number is rounded to itself**, at whichever exponent it is written. -/
theorem round_whole (positive : 0 < n) (small : n < 2 ^ 53) (shift : Nat) :
    UnpackedFloat.round .binary64 .positive (n * 2 ^ shift) (-shift) =
      .finite .positive (n * 2 ^ (52 - n.log2)) (n.log2 - 52)
        (Nat.mul_pos positive (Nat.two_pow_pos _)) := by
  have short := log2_short positive small
  have target : Format.binary64.targetExponent
      (Float.Model.totalExponent (n * 2 ^ shift) (-shift)) = n.log2 - 52 := by
    unfold Float.Model.totalExponent Format.targetExponent
    rw [log2_mul_two_pow positive]
    show max ((((n.log2 + shift : Nat) : Int) + 1 + -shift) - (53 : Nat)) (-1074) = _
    omega
  have low : -1074 ≤ (n.log2 - 52 : Int) := by omega
  have rounded := roundWithAccuracy_exact .positive (log2_full positive small) low
    (Nat.mul_pos positive (Nat.two_pow_pos _)) (shift - (52 - n.log2))
  unfold UnpackedFloat.round UnpackedFloat.decreaseExponent
  simp only [target]
  have mantissa : (n * 2 ^ shift) <<< (-(shift : Int) - (n.log2 - 52)).toNat =
      n * 2 ^ (52 - n.log2) * 2 ^ (shift - (52 - n.log2)) := by
    rw [Nat.shiftLeft_eq, Nat.mul_assoc, Nat.mul_assoc, ← Nat.pow_add, ← Nat.pow_add]
    congr 2
    omega
  have exponent : -(shift : Int) - (-(shift : Int) - (n.log2 - 52)).toNat =
      (n.log2 - 52 : Int) - (shift - (52 - n.log2) : Nat) := by
    omega
  rw [mantissa, exponent]
  exact rounded

theorem normalize_whole (positive : 0 < n) (small : n < 2 ^ 53) (shift : Nat) :
    UnpackedFloat.normalize .binary64 (n * 2 ^ shift : Nat) (-shift) .positive =
      .finite .positive (n * 2 ^ (52 - n.log2)) (n.log2 - 52)
        (Nat.mul_pos positive (Nat.two_pow_pos _)) := by
  have above : compare ((n * 2 ^ shift : Nat) : Int) 0 = .gt :=
    compare_gt_iff_gt.mpr (Int.natCast_pos.mpr (Nat.mul_pos positive (Nat.two_pow_pos shift)))
  rw [← round_whole positive small shift]
  unfold UnpackedFloat.normalize
  rw [above]
  rfl

/-- The float of a whole number above zero. -/
theorem ofNat_eq (positive : 0 < n) (small : n < 2 ^ 53) :
    UnpackedFloat.ofNat .binary64 n =
      .finite .positive (n * 2 ^ (52 - n.log2)) (n.log2 - 52)
        (Nat.mul_pos positive (Nat.two_pow_pos _)) := by
  rw [← normalize_whole positive small 0, Nat.pow_zero, Nat.mul_one]
  rfl

/-- Packing keeps whole numbers. -/
theorem unpack_pack_ofNat (small : n < 2 ^ 53) :
    unpack .binary64 (pack .binary64 (.ofNat .binary64 n)) = .ofNat .binary64 n := by
  rcases Nat.eq_zero_or_pos n with rfl | positive
  · rfl
  · have short := log2_short positive small
    rw [ofNat_eq positive small]
    exact unpack_pack_normal (log2_full positive small) (by omega) (by omega) _

/-- A whole number that is written at a smaller exponent. -/
theorem shiftLeft_whole (short : n.log2 < 53) {shift : Nat} (less : -(shift : Int) ≤ n.log2 - 52) :
    (n * 2 ^ (52 - n.log2)) <<< ((n.log2 - 52 : Int) - -shift).toNat = n * 2 ^ shift := by
  rw [Nat.shiftLeft_eq, Nat.mul_assoc, ← Nat.pow_add]
  congr 2
  omega

/-- Whole numbers above zero are added at the smaller one of their exponents. -/
theorem add_ofNat_pos (left : 0 < m) (right : 0 < n) (small : m + n < 2 ^ 53) :
    UnpackedFloat.add .binary64 (.ofNat .binary64 m) (.ofNat .binary64 n) =
      .ofNat .binary64 (m + n) := by
  have first : m.log2 < 53 := log2_short left (by omega)
  have second : n.log2 < 53 := log2_short right (by omega)
  obtain ⟨shift, least⟩ : ∃ shift : Nat, min (m.log2 - 52 : Int) (n.log2 - 52) = -shift :=
    ⟨52 - min m.log2 n.log2, by omega⟩
  rw [ofNat_eq left (by omega), ofNat_eq right (by omega), ofNat_eq (by omega) small]
  unfold UnpackedFloat.add UnpackedFloat.decreaseExponent
  simp only [least, shiftLeft_whole first (by omega : -(shift : Int) ≤ _),
    shiftLeft_whole second (by omega : -(shift : Int) ≤ _)]
  rw [← normalize_whole (by omega) small shift, Nat.add_mul]
  rfl

/-- **Whole numbers are added** without rounding. -/
theorem add_ofNat (small : m + n < 2 ^ 53) :
    UnpackedFloat.add .binary64 (.ofNat .binary64 m) (.ofNat .binary64 n) =
      .ofNat .binary64 (m + n) := by
  rcases Nat.eq_zero_or_pos m with rfl | left
  · rw [Nat.zero_add]
    rcases Nat.eq_zero_or_pos n with rfl | right
    · rfl
    · rw [ofNat_eq right (by omega)]
      rfl
  · rcases Nat.eq_zero_or_pos n with rfl | right
    · rw [Nat.add_zero, ofNat_eq left small]
      rfl
    · exact add_ofNat_pos left right small

/-- A mantissa of full length is divided by one with one more digit, and exactly. -/
theorem divCore_one {mantissa : Nat} {exponent : Int} (full : mantissa.log2 = 52)
    (low : -1073 ≤ exponent) :
    UnpackedFloat.divCore .binary64 mantissa exponent (2 ^ 52) (-52) =
      (mantissa * 2 ^ 1, exponent - 1, .exact) := by
  have target : min (exponent - -52) (Format.binary64.targetExponent
      (Float.Model.totalExponent mantissa exponent - Float.Model.totalExponent (2 ^ 52) (-52))) =
      exponent - 1 := by
    unfold Float.Model.totalExponent Format.targetExponent
    rw [full, Nat.log2_two_pow]
    show min _ (max (_ - ((53 : Nat) : Int)) (-1074)) = _
    omega
  have amount : (exponent - -52 - (exponent - 1)).toNat = 53 := by omega
  have digits : mantissa <<< 53 = mantissa * 2 ^ 1 * 2 ^ 52 := by
    rw [Nat.shiftLeft_eq, Nat.mul_assoc, ← Nat.pow_add]
  unfold UnpackedFloat.divCore
  simp only [target, amount, digits, Nat.mul_div_cancel _ (Nat.two_pow_pos 52),
    Nat.mul_mod_left]
  rfl

/-- **A whole number divided by one** stays what it is. -/
theorem div_ofNat_one (small : n < 2 ^ 53) :
    UnpackedFloat.div .binary64 (.ofNat .binary64 n) (.ofNat .binary64 1) = .ofNat .binary64 n := by
  rcases Nat.eq_zero_or_pos n with rfl | positive
  · rfl
  · have low : -1073 ≤ (n.log2 - 52 : Int) := by omega
    have one : UnpackedFloat.ofNat .binary64 1 = .finite .positive (2 ^ 52) (-52) (by decide) := rfl
    rw [ofNat_eq positive small, one]
    unfold UnpackedFloat.div
    simp only [divCore_one (log2_full positive small) low]
    exact roundWithAccuracy_exact .positive (log2_full positive small) (by omega) _ 1

/-- Whole numbers above zero are compared by exponents first, and then by mantissas. -/
theorem le_ofNat_pos (first : 0 < m) (second : 0 < n) (left : m < 2 ^ 53) (right : n < 2 ^ 53) :
    UnpackedFloat.le (.ofNat .binary64 m) (.ofNat .binary64 n) = true ↔ m ≤ n := by
  obtain ⟨least, most⟩ := (Nat.log2_eq_iff (Nat.ne_of_gt first)).mp rfl
  obtain ⟨lower, upper⟩ := (Nat.log2_eq_iff (Nat.ne_of_gt second)).mp rfl
  rw [ofNat_eq first left, ofNat_eq second right]
  show ((compare (m.log2 - 52 : Int) (n.log2 - 52)).then (compare _ _)).isLE = true ↔ _
  rcases Nat.lt_trichotomy m.log2 n.log2 with shorter | same | longer
  · have exponents : compare (m.log2 - 52 : Int) (n.log2 - 52) = .lt :=
      compare_lt_iff_lt.mpr (by omega)
    have powers : 2 ^ (m.log2 + 1) ≤ 2 ^ n.log2 := Nat.pow_le_pow_right (by decide) shorter
    rw [exponents]
    exact iff_of_true rfl (by omega)
  · have exponents : compare (m.log2 - 52 : Int) (n.log2 - 52) = .eq :=
      compare_eq_iff_eq.mpr (by omega)
    rw [exponents, same, Ordering.then, Nat.isLE_compare]
    exact Nat.mul_le_mul_right_iff (Nat.two_pow_pos _)
  · have exponents : compare (m.log2 - 52 : Int) (n.log2 - 52) = .gt :=
      compare_gt_iff_gt.mpr (by omega)
    have powers : 2 ^ (n.log2 + 1) ≤ 2 ^ m.log2 := Nat.pow_le_pow_right (by decide) longer
    rw [exponents]
    exact iff_of_false (by rintro ⟨⟩) (by omega)

/-- **Whole numbers are compared** as floats as they are exactly. -/
theorem le_ofNat (left : m < 2 ^ 53) (right : n < 2 ^ 53) :
    UnpackedFloat.le (.ofNat .binary64 m) (.ofNat .binary64 n) = true ↔ m ≤ n := by
  have zero : UnpackedFloat.ofNat .binary64 0 = .zero .positive := rfl
  rcases Nat.eq_zero_or_pos m with rfl | first
  · rcases Nat.eq_zero_or_pos n with rfl | second
    · exact iff_of_true rfl (Nat.le_refl 0)
    · rw [zero, ofNat_eq second right]
      exact iff_of_true rfl (Nat.zero_le n)
  · rcases Nat.eq_zero_or_pos n with rfl | second
    · rw [zero, ofNat_eq first left]
      exact iff_of_false (by rintro ⟨⟩) (Nat.not_le.mpr first)
    · exact le_ofNat_pos first second left right

end Numbers

/-! ### Floats -/

/-- A float that stands for a whole number. -/
structure IsWhole (x : Float) (n : Nat) : Prop where
  unpacked : x.toModel.unpack = .ofNat .binary64 n
  small : n < 2 ^ 53

variable {x y : Float} {m n : Nat}

/-- The sum of whole numbers that is not too large is a whole number. -/
theorem IsWhole.add (first : IsWhole x m) (second : IsWhole y n) (small : m + n < 2 ^ 53) :
    IsWhole (x + y) (m + n) := by
  refine ⟨?_, small⟩
  show unpack .binary64 (pack .binary64 (UnpackedFloat.add .binary64 _ _)) = _
  rw [first.unpacked, second.unpacked, add_ofNat small, unpack_pack_ofNat small]

theorem IsWhole.div_one (first : IsWhole x n) (one : IsWhole y 1) : IsWhole (x / y) n := by
  refine ⟨?_, first.small⟩
  show unpack .binary64 (pack .binary64 (UnpackedFloat.div .binary64 _ _)) = _
  rw [first.unpacked, one.unpacked, div_ofNat_one first.small, unpack_pack_ofNat first.small]

/-- Whole numbers compare as they do exactly. -/
theorem IsWhole.le_iff (first : IsWhole x m) (second : IsWhole y n) : x ≤ y ↔ m ≤ n := by
  rw [← le_ofNat first.small second.small, ← first.unpacked, ← second.unpacked]
  exact ⟨of_decide_eq_true, decide_eq_true⟩

/-- **The number that a whole float stands for.** -/
theorem IsWhole.degrees_eq (whole : IsWhole x n) : degrees x = n := by
  unfold degrees
  rw [parts_eq, whole.unpacked]
  rcases Nat.eq_zero_or_pos n with rfl | positive
  · have zero : UnpackedFloat.ofNat .binary64 0 = .zero .positive := rfl
    rw [zero]
    simp only [partsOf, Nat.cast_zero, Rat.zero_mkRat, zero_mul, neg_zero, ite_self]
  · have short := log2_short positive whole.small
    rw [ofNat_eq positive whole.small]
    show (if 0 ≤ (n.log2 - 52 : Int) then ((n * 2 ^ (52 - n.log2) : Nat) : ℚ) * 2 ^ (_ : Nat)
      else mkRat ((n * 2 ^ (52 - n.log2) : Nat) : Int) _) = _
    split
    · have full : n.log2 = 52 := by omega
      rw [full]
      simp
    · have scale : (-(n.log2 - 52 : Int)).toNat = 52 - n.log2 := by omega
      rw [scale, Rat.mkRat_eq_div]
      have nonzero : ((2 : ℚ) ^ (52 - n.log2)) ≠ 0 := pow_ne_zero _ two_ne_zero
      push_cast
      exact mul_div_cancel_right₀ _ nonzero

/-- The opposite of a float stands for the opposite number. -/
theorem degrees_neg (x : Float) : degrees (-x) = -degrees x := by
  unfold degrees
  rw [parts_eq, parts_eq, unpack_neg]
  cases x.toModel.unpack with
  | notANumber => rfl
  | infinity sign => rfl
  | zero sign =>
    simp only [UnpackedFloat.neg, partsOf, Nat.cast_zero, Rat.zero_mkRat, zero_mul, neg_zero, ite_self]
  | finite sign mantissa exponent positive =>
    cases sign with
    | positive => rfl
    | negative => exact (neg_neg _).symm

theorem isWhole_toFloat (small : n < 2 ^ 53) : IsWhole n.toUInt64.toFloat n := by
  refine ⟨?_, small⟩
  have kept : n.toUInt64.toNat = n := UInt64.toNat_ofNat_of_lt' (Nat.lt_of_lt_of_le small (by decide))
  show unpack .binary64 (pack .binary64 (UnpackedFloat.ofNat .binary64 n.toUInt64.toNat)) = _
  rw [kept, unpack_pack_ofNat small]

/-- **Digits without a point** denote the number that they spell. -/
theorem isWhole_decimal {digits : List Char} (small : Text.Digits.value digits < 2 ^ 53) :
    IsWhole (Text.Digits.decimal digits []) (Text.Digits.value digits) := by
  unfold Text.Digits.decimal
  rw [List.append_nil, Float.ofScientific, dif_pos ⟨small, Nat.zero_le 22⟩]
  have one : IsWhole (Float.ofBits 0x3FF0000000000000) 1 := ⟨rfl, by decide⟩
  exact (isWhole_toFloat small).div_one one

end FlightRoute.Distance
