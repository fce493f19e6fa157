import Mathlib
import StoreBench.Proofs.Numbers.Rounding

namespace StoreBench.Binary

/-! How positive floating-point numbers are stored. Each has one form that it is rounded to, and
this form is packed into 64 bits and unpacked without loss, unless it is too large. -/

open Float.Model (Format totalExponent UnpackedFloat)
open Float.Model.UnpackedFloat

/-! ## Rounding to what can be stored -/

/-- Digits and an exponent in the one form in which they can be stored: 53 digits, or fewer
of them at the least exponent. There may be no room for the exponent. -/
structure Stored (digits : Nat) (exponent : ℤ) : Prop where
  few : digits < 2 ^ 53
  least : -1074 ≤ exponent
  full : 2 ^ 52 ≤ digits ∨ exponent = -1074

theorem targetExponent_eq (number : Nat) (exponent : ℤ) :
    Format.binary64.targetExponent (totalExponent number exponent) =
      max (exponent + number.log2 - 52) (-1074) := by
  simp only [Format.targetExponent, totalExponent, Format.mantissaBits, Format.minExponent]
  omega

theorem shiftToTargetExponent_eq (number : Nat) (exponent : ℤ)
    (least : -1074 ≤ exponent + (number.log2 - 52 : Nat)) :
    shiftToTargetExponent .binary64 number exponent .exact =
      (ExtendedMantissa.mk number false false >>> (number.log2 - 52),
        exponent + (number.log2 - 52 : Nat)) := by
  have shifted : (max (exponent + number.log2 - 52) (-1074) - exponent).toNat =
      number.log2 - 52 := by omega
  rw [shiftToTargetExponent, targetExponent_eq, shiftToExponent, shifted]
  rfl

theorem roundWithAccuracy_eq_of_shift {number : Nat} {exponent last : ℤ}
    {final : ExtendedMantissa} (least : -1074 ≤ exponent + (number.log2 - 52 : Nat))
    (shifted : shiftToTargetExponent .binary64 (upper number)
      (exponent + (number.log2 - 52 : Nat)) .exact = (final, last))
    (nonzero : 0 < final.mantissa) :
    roundWithAccuracy .binary64 .positive number exponent .exact =
      .finite .positive final.mantissa last nonzero := by
  rw [upper] at shifted
  simp only [roundWithAccuracy, shiftToTargetExponent_eq _ _ least, shifted, nonzero.ne',
    dite_false]

theorem roundWithAccuracy_eq (number : Nat) (exponent : ℤ) (positive : number ≠ 0)
    (least : -1074 ≤ exponent + (number.log2 - 52 : Nat))
    (full : 52 ≤ number.log2 ∨ exponent = -1074) :
    ∃ digits last, ∃ nonzero : 0 < digits,
      roundWithAccuracy .binary64 .positive number exponent .exact =
        .finite .positive digits last nonzero ∧
      Stored digits last ∧ (digits : ℚ) * 2 ^ last = rounded number * 2 ^ exponent := by
  have value : ((upper number : Nat) : ℚ) * 2 ^ (exponent + (number.log2 - 52 : Nat)) =
      rounded number * 2 ^ exponent := (mul_pow_mul_zpow _ _ _).symm
  rcases upper_cases positive with ⟨few, enough⟩ | carried
  · have short : (upper number).log2 ≤ 52 :=
      Nat.le_of_lt_succ ((Nat.log2_lt enough).mpr few)
    have stays := shiftToTargetExponent_eq (upper number)
      (exponent + (number.log2 - 52 : Nat)) (by omega)
    rw [Nat.sub_eq_zero_of_le short] at stays
    refine ⟨_, _, Nat.pos_of_ne_zero enough, roundWithAccuracy_eq_of_shift least stays _,
      ⟨few, by omega, ?_⟩, ?_⟩
    · rcases full with long | low
      · exact .inl (upper_bounds long).1
      · by_cases long : 52 ≤ number.log2
        · exact .inl (upper_bounds long).1
        · exact .inr (by omega)
    · simpa using value
  · have moves := shiftToTargetExponent_eq (upper number)
      (exponent + (number.log2 - 52 : Nat)) (by omega)
    have digit : (upper number).log2 - 52 = 1 := by rw [carried, Nat.log2_two_pow]
    rw [digit, show ExtendedMantissa.mk (upper number) false false >>> 1 = ⟨2 ^ 52, false, false⟩
      from carried ▸ shift_zeros (2 ^ 52) 1] at moves
    refine ⟨2 ^ 52, _, by norm_num, roundWithAccuracy_eq_of_shift least moves _,
      ⟨by norm_num, by omega, .inl le_rfl⟩, ?_⟩
    rw [← value, carried, ← mul_pow_mul_zpow]
    norm_num

/-- A number that is not too small is first given all its digits, and then rounded. -/
theorem round_eq {number : Nat} {exponent : ℤ} (positive : number ≠ 0)
    (least : -1074 ≤ exponent) :
    ∃ digits last, ∃ nonzero : 0 < digits,
      UnpackedFloat.round .binary64 .positive number exponent =
        .finite .positive digits last nonzero ∧
      Stored digits last ∧ (digits : ℚ) * 2 ^ last = rounded number * 2 ^ exponent := by
  have expanded := log2_mul_pow positive
    (exponent - max (exponent + number.log2 - 52) (-1074)).toNat
  rw [UnpackedFloat.round, targetExponent_eq, decreaseExponent, Nat.shiftLeft_eq]
  generalize zerosEq : (exponent - max (exponent + number.log2 - 52) (-1074)).toNat = zeros
    at expanded
  rcases roundWithAccuracy_eq (number * 2 ^ zeros) (exponent - zeros)
    (Nat.mul_ne_zero positive (Nat.two_pow_pos zeros).ne') (by omega) (by omega) with
    ⟨digits, last, nonzero, result, stored, value⟩
  refine ⟨digits, last, nonzero, result, stored, value.trans ?_⟩
  rw [rounded_mul_pow, mul_pow_mul_zpow, Int.sub_add_cancel]

/-! ## Packing -/

def decode (sign : Sign) (exponent : BitVec 11) (digits : BitVec 52) : UnpackedFloat :=
  if exponent = -1#_ then if digits = 0#_ then .infinity sign else .notANumber
  else if exponent = 0#_ then
    if nonzero : digits ≠ 0#_ then
      .finite sign digits.toNat (-1074) (BitVec.toNat_pos_of_ne_zero nonzero)
    else .zero sign
  else .finite sign (2 ^ 52 + digits.toNat) (exponent.toNat - 1075) (by omega)

theorem unpack_eq_decode (bits : BitVec Format.binary64.numBits) :
    UnpackedFloat.unpack .binary64 bits =
      decode (.ofBitVec (unpackSign bits)) (unpackExponent bits) (unpackMantissa bits) := by
  have digit : (1#1 ++ unpackMantissa bits).toNat = 2 ^ 52 + (unpackMantissa bits).toNat := by
    rw [BitVec.toNat_append, ← Nat.shiftLeft_add_eq_or_of_lt (unpackMantissa bits).isLt]
    rfl
  have bias : (Format.binary64.exponentBias : ℤ) + ((52 : Nat) : ℤ) = 1075 := rfl
  simp only [UnpackedFloat.unpack, decode, bias]
  split
  next => rfl
  next =>
    split
    next least =>
      rw [least]
      split <;> simp_all
    next =>
      congr 1

theorem unpack_packComponents (sign : Sign) (exponent : BitVec 11) (digits : BitVec 52) :
    UnpackedFloat.unpack .binary64 (packComponents .binary64 sign exponent digits) =
      decode sign exponent digits := by
  rw [unpack_eq_decode, unpackSign_packComponents, unpackExponent_packComponents,
    unpackMantissa_packComponents, Sign.ofBitVec_toBitVec]

theorem stored_of_decode {sign other : Sign} {field : BitVec 11} {fraction : BitVec 52}
    {digits : Nat} {exponent : ℤ} {nonzero : 0 < digits}
    (decoded : decode sign field fraction = .finite other digits exponent nonzero) :
    Stored digits exponent ∧ exponent ≤ 971 := by
  have few := fraction.isLt
  have small := field.isLt
  unfold decode at decoded
  split at decoded
  · split at decoded <;> cases decoded
  next notGreatest =>
    have below : field.toNat ≠ 2047 := fun greatest =>
      notGreatest (BitVec.eq_of_toNat_eq greatest)
    split at decoded
    · split at decoded
      · cases decoded
        exact ⟨⟨by omega, by omega, .inr rfl⟩, by omega⟩
      · cases decoded
    next notLeast =>
      have above : field.toNat ≠ 0 := fun least => notLeast (BitVec.eq_of_toNat_eq least)
      cases decoded
      exact ⟨⟨by omega, by omega, .inl (by omega)⟩, by omega⟩

theorem decode_of_full {digits : Nat} {exponent : ℤ} (nonzero : 0 < digits)
    (full : 2 ^ 52 ≤ digits) (few : digits < 2 ^ 53) (least : -1074 ≤ exponent)
    (room : exponent ≤ 971) :
    decode .positive (.ofNat 11 (exponent + 1075).toNat) (.ofNat 52 digits) =
      .finite .positive digits exponent nonzero := by
  have biased : (BitVec.ofNat 11 (exponent + 1075).toNat).toNat = (exponent + 1075).toNat := by
    rw [BitVec.toNat_ofNat, Nat.mod_eq_of_lt (by omega)]
  have lower : (BitVec.ofNat 52 digits).toNat = digits - 2 ^ 52 := by
    rw [BitVec.toNat_ofNat]
    omega
  have notGreatest : BitVec.ofNat 11 (exponent + 1075).toNat ≠ -1#_ := by
    intro greatest
    rw [greatest] at biased
    change 2047 = _ at biased
    omega
  have notLeast : BitVec.ofNat 11 (exponent + 1075).toNat ≠ 0#_ := by
    intro zero
    rw [zero] at biased
    change 0 = _ at biased
    omega
  rw [decode, if_neg notGreatest, if_neg notLeast]
  congr 1 <;> omega

theorem decode_of_short {digits : Nat} (nonzero : 0 < digits) (few : digits < 2 ^ 52) :
    decode .positive 0#11 (.ofNat 52 digits) = .finite .positive digits (-1074) nonzero := by
  have all : (BitVec.ofNat 52 digits).toNat = digits := by
    rw [BitVec.toNat_ofNat, Nat.mod_eq_of_lt few]
  have notZero : BitVec.ofNat 52 digits ≠ 0#_ := by
    intro zero
    rw [zero] at all
    exact nonzero.ne all
  rw [decode, if_neg (by decide), if_pos rfl, dif_pos notZero]
  congr 1

theorem biased_eq (exponent : ℤ) :
    exponent + (Format.binary64.exponentBias : ℤ) + ((52 : Nat) : ℤ) = exponent + 1075 := by
  simp [Format.exponentBias]
  omega

theorem unpack_pack {digits : Nat} {exponent : ℤ} (stored : Stored digits exponent)
    (nonzero : 0 < digits) (room : exponent ≤ 971) :
    (Float.Model.pack (.finite .positive digits exponent nonzero)).unpack =
      .finite .positive digits exponent nonzero := by
  rcases stored with ⟨few, least, filled⟩
  have fits : ¬2 ^ 11 ≤ (exponent + 1075).toNat + 1 := by omega
  simp only [Float.Model.unpack, Float.Model.pack, pack, biased_eq, fits, if_false]
  by_cases full : 2 ^ 52 ≤ digits
  · have size : digits.log2 + 1 = Format.binary64.mantissaBits :=
      congrArg Nat.succ ((Nat.log2_eq_iff nonzero.ne').mpr ⟨full, few⟩)
    simp only [size, if_true]
    rw [unpack_packComponents, decode_of_full nonzero full few least room]
  · have short := (Nat.log2_lt nonzero.ne').mpr (Nat.lt_of_not_le full)
    have size : digits.log2 + 1 ≠ Format.binary64.mantissaBits :=
      fun same => absurd (Nat.succ.inj same) (Nat.ne_of_lt short)
    obtain rfl : exponent = -1074 := filled.resolve_left full
    simp only [size, if_false]
    rw [unpack_packComponents, decode_of_short nonzero (Nat.lt_of_not_le full)]

theorem pack_overflow {digits : Nat} {exponent : ℤ} (nonzero : 0 < digits)
    (high : 971 < exponent) :
    Float.Model.pack (.finite .positive digits exponent nonzero) =
      .pack (.infinity .positive) := by
  have noRoom : 2 ^ 11 ≤ (exponent + 1075).toNat + 1 := by omega
  simp only [Float.Model.pack, pack, biased_eq, noRoom, if_true]

theorem stored_of_unpack {number : Float} {sign : Sign} {digits : Nat} {exponent : ℤ}
    {nonzero : 0 < digits}
    (unpacked : number.toModel.unpack = .finite sign digits exponent nonzero) :
    Stored digits exponent ∧ exponent ≤ 971 :=
  stored_of_decode ((unpack_eq_decode _).symm.trans unpacked)

end StoreBench.Binary
