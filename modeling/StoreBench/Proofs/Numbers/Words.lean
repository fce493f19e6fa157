import Mathlib.Algebra.Group.Nat.Defs
import Mathlib.Logic.Function.Basic
import StoreBench.Random.Xoshiro

namespace StoreBench

/-! Operations on words that lose nothing: two words with the same result are the same word. -/

theorem mul_injective_of_inverse {factor inverse : UInt64} (unit : factor * inverse = 1) :
    Function.Injective fun word : UInt64 => word * factor := by
  intro left right same
  have product := congrArg (· * inverse) same
  simpa only [UInt64.mul_assoc, unit, UInt64.mul_one] using product

/-! ## A word mixed with itself

The difference of two words that are mixed to the same one is its own shifted copy, and only zero
is. -/

theorem eq_of_xor_eq {left right leftMixed rightMixed : UInt64}
    (same : left ^^^ leftMixed = right ^^^ rightMixed) :
    left ^^^ right = leftMixed ^^^ rightMixed := by
  rw [← UInt64.xor_eq_zero_iff] at same ⊢
  rw [← same]
  ac_rfl

theorem xor_shiftRight_injective {count : UInt64} (moved : count.toNat % 64 ≠ 0) :
    Function.Injective fun word : UInt64 => word ^^^ (word >>> count) := by
  intro left right same
  have fixed : left ^^^ right = (left ^^^ right) >>> count := by
    rw [UInt64.shiftRight_xor]
    exact eq_of_xor_eq same
  apply UInt64.xor_eq_zero_iff.mp
  apply UInt64.toNat_inj.mp
  have halved := congrArg UInt64.toNat fixed
  rw [UInt64.toNat_shiftRight, Nat.shiftRight_eq_div_pow] at halved
  apply Nat.eq_zero_of_not_pos
  intro positive
  have less := Nat.div_lt_self positive (Nat.one_lt_two_pow moved)
  omega

theorem xor_shiftLeft_injective :
    Function.Injective fun word : UInt64 => word ^^^ (word <<< 17) := by
  intro left right same
  have fixed : left ^^^ right = (left ^^^ right) <<< 17 := by
    rw [UInt64.shiftLeft_xor]
    exact eq_of_xor_eq same
  apply UInt64.xor_eq_zero_iff.mp
  apply UInt64.toNat_inj.mp
  generalize left ^^^ right = difference at fixed ⊢
  have count : (17 : UInt64).toNat % 64 = 17 := rfl
  have shifted : difference.toNat * 2 ^ 17 % 2 ^ 64 = difference.toNat % 2 ^ 64 := by
    rw [Nat.mod_eq_of_lt difference.toNat_lt]
    have moved := congrArg UInt64.toNat fixed
    rw [UInt64.toNat_shiftLeft, Nat.shiftLeft_eq, count] at moved
    exact moved.symm
  have multiple : 2 ^ 64 ∣ difference.toNat * (2 ^ 17 - 1) := by
    rw [Nat.mul_sub_one]
    exact Nat.dvd_of_mod_eq_zero (Nat.sub_mod_eq_zero_of_mod_eq shifted)
  have coprime : Nat.Coprime (2 ^ 64) (2 ^ 17 - 1) := by decide
  exact Nat.eq_zero_of_dvd_of_lt (coprime.dvd_of_dvd_mul_right multiple) difference.toNat_lt

/-! ## Rotation -/

theorem toNat_rotateLeft (word : UInt64) :
    (rotateLeft word 45).toNat = word.toNat % 2 ^ 19 * 2 ^ 45 + word.toNat / 2 ^ 19 := by
  have upper : word.toNat / 2 ^ 19 < 2 ^ 45 := by
    have bound := word.toNat_lt
    omega
  have left : (word <<< 45).toNat = (word.toNat % 2 ^ 19) <<< 45 := by
    have count : (45 : UInt64).toNat % 64 = 45 := rfl
    rw [UInt64.toNat_shiftLeft, count, Nat.shiftLeft_eq, Nat.shiftLeft_eq]
    omega
  have right : (word >>> (64 - 45)).toNat = word.toNat / 2 ^ 19 := by
    have count : (64 - 45 : UInt64).toNat % 64 = 19 := rfl
    rw [UInt64.toNat_shiftRight, count, Nat.shiftRight_eq_div_pow]
  rw [rotateLeft, UInt64.toNat_or, left, right, ← Nat.shiftLeft_add_eq_or_of_lt upper,
    Nat.shiftLeft_eq]

theorem rotateLeft_injective : Function.Injective fun word => rotateLeft word 45 := by
  intro left right same
  have turned := congrArg UInt64.toNat same
  simp only [toNat_rotateLeft] at turned
  have leftBound := left.toNat_lt
  have rightBound := right.toNat_lt
  apply UInt64.toNat_inj.mp
  omega

end StoreBench
