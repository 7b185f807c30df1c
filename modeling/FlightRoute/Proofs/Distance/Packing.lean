/-
**How floats are packed.**

A packed float is a sign, an exponent and a mantissa side by side. Packing undoes unpacking, and it
passes the sign on, so that the opposite of a float stands for the opposite of what the float stands
for; and a mantissa of full length at an exponent in range is a float as it is. (What the library knows
of packed floats comes with the whole of it only.)

* `unpack_pack_normal`: unpacking undoes packing where nothing has to be rounded;
* `unpack_neg`, `neg_ofModel`: negation.
-/

import Mathlib
import FlightRoute.Proofs.Distance.Planar

namespace FlightRoute.Distance

open Float.Model (UnpackedFloat Format)
open Float.Model.UnpackedFloat

/-! ### The fields of a packed float -/

section Fields

variable {sign : Sign} {exponent : BitVec 11} {mantissa : BitVec 52}

/-- The sign of a packed float is that of what it stands for. -/
theorem unpack_packComponents_neg :
    unpack .binary64 (packComponents .binary64 (-sign) exponent mantissa) =
      (unpack .binary64 (packComponents .binary64 sign exponent mantissa)).neg := by
  simp only [unpack, unpackExponent_packComponents, unpackMantissa_packComponents,
    unpackSign_packComponents, Sign.ofBitVec_toBitVec]
  split_ifs <;> rfl

/-- Packing keeps the sign. -/
theorem unpack_pack_neg (value : UnpackedFloat) :
    unpack .binary64 (pack .binary64 value.neg) =
      (unpack .binary64 (pack .binary64 value)).neg := by
  cases value with
  | notANumber => rfl
  | infinity sign => exact unpack_packComponents_neg
  | zero sign => exact unpack_packComponents_neg
  | finite sign mantissa exponent positive =>
    unfold pack UnpackedFloat.neg
    dsimp only
    split_ifs <;> exact unpack_packComponents_neg

/-- With the leading bit it is packed without it, beside its exponent. -/
theorem pack_normal (bounded : exponent ≠ -1#11) (positive : 0 < (1#1 ++ mantissa).toNat) :
    pack .binary64
        (.finite sign (1#1 ++ mantissa).toNat (exponent.toNat - (1023 + 52)) positive) =
      packComponents .binary64 sign exponent mantissa := by
  have below : mantissa.toNat < 2 ^ 52 := mantissa.isLt
  have leading := toNat_one_append mantissa
  have within : exponent.toNat < 2 ^ 11 - 1 := by
    have differs : exponent.toNat ≠ 2 ^ 11 - 1 := fun same => bounded (BitVec.eq_of_toNat_eq same)
    have most : exponent.toNat < 2 ^ 11 := exponent.isLt
    omega
  have biased : ((exponent.toNat - (1023 + 52) : Int) + (Format.binary64.exponentBias : Nat) +
      (Format.binary64.mantissaBitsWithoutImplicit : Nat)).toNat = exponent.toNat := by
    show ((exponent.toNat - (1023 + 52) : Int) + (1023 : Nat) + (52 : Nat)).toNat = _
    omega
  have long : (1#1 ++ mantissa).toNat.log2 + 1 = Format.binary64.mantissaBits := by
    have digits : (1#1 ++ mantissa).toNat.log2 = 52 :=
      (Nat.log2_eq_iff (Nat.ne_of_gt positive)).mpr ⟨by omega, by omega⟩
    rw [digits]
    rfl
  have rest : BitVec.ofNat 52 (1#1 ++ mantissa).toNat = mantissa := by
    refine BitVec.eq_of_toNat_eq ?_
    rw [BitVec.toNat_ofNat, leading]
    omega
  unfold pack
  dsimp only
  rw [biased, if_neg (by show ¬2 ^ 11 ≤ _; omega), if_pos long, BitVec.ofNat_toNat, BitVec.setWidth_eq, rest]

/-- **Unpacking undoes packing** where the mantissa has its full length and the exponent is in range. -/
theorem unpack_pack_normal {mantissa : Nat} {exponent : Int} (full : mantissa.log2 = 52)
    (low : -1074 ≤ exponent) (high : exponent ≤ 971) (positive : 0 < mantissa) :
    unpack .binary64 (pack .binary64 (.finite sign mantissa exponent positive)) =
      .finite sign mantissa exponent positive := by
  obtain ⟨least, most⟩ := (Nat.log2_eq_iff (Nat.ne_of_gt positive)).mp full
  obtain ⟨rest, rfl⟩ : ∃ rest : BitVec 52, mantissa = (1#1 ++ rest).toNat := by
    refine ⟨BitVec.ofNat 52 mantissa, ?_⟩
    rw [toNat_one_append, BitVec.toNat_ofNat]
    omega
  obtain ⟨field, biased, rfl⟩ : ∃ field : BitVec 11, (0 < field.toNat ∧ field.toNat < 2047) ∧
      exponent = field.toNat - (1023 + 52) := by
    refine ⟨BitVec.ofNat 11 (exponent + 1075).toNat, ?_⟩
    rw [BitVec.toNat_ofNat]
    omega
  have bounded : field ≠ -1#11 := by
    rintro rfl
    exact absurd biased.2 (by decide)
  have nonzero : field ≠ 0#11 := by
    rintro rfl
    exact absurd biased.1 (by decide)
  rw [pack_normal bounded positive]
  unfold unpack
  simp only [unpackExponent_packComponents, unpackMantissa_packComponents,
    unpackSign_packComponents, Sign.ofBitVec_toBitVec]
  rw [if_neg bounded, if_neg nonzero]
  rfl

end Fields

/-! ### Negation -/

/-- A float is packed from what it stands for. -/
theorem ofModel_pack_unpack (x : Float) : Float.ofModel (.pack x.toModel.unpack) = x :=
  Float.ofBits_toBits x

/-- What the opposite of a float stands for. -/
theorem unpack_neg (x : Float) : (-x).toModel.unpack = x.toModel.unpack.neg := by
  show unpack .binary64 (pack .binary64 (unpack .binary64 x.toModel.toBits.toBitVec).neg) = _
  rw [unpack_pack_neg, pack_unpack_of_valid x.toModel.valid]
  rfl

/-- **Negation crosses packing.** -/
theorem neg_ofModel (value : UnpackedFloat) :
    -Float.ofModel (.pack value) = Float.ofModel (.pack value.neg) := by
  rw [← ofModel_pack_unpack (-Float.ofModel (.pack value)), unpack_neg]
  show Float.ofModel (.pack (unpack .binary64 (pack .binary64 value)).neg) = _
  rw [← unpack_pack_neg]
  exact ofModel_pack_unpack (Float.ofModel (.pack value.neg))

end FlightRoute.Distance
