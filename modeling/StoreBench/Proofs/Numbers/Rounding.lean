import Mathlib.Algebra.Order.Field.Power
import Mathlib.Algebra.Order.Field.Rat
import Mathlib.Tactic.Linarith
import Mathlib.Tactic.Ring

namespace StoreBench.Binary

/-! Numbers that are rounded to 53 binary digits. Rounding looks at the digits only, not at
where the point is. So if twice a number can be rounded at all, it is rounded to twice what
the number is rounded to. -/

open Float.Model (Format totalExponent UnpackedFloat)
open Float.Model.UnpackedFloat (ExtendedMantissa)

/-! ## Digits that are shifted out -/

theorem shift_add (digits : ExtendedMantissa) (first second : Nat) :
    digits >>> (first + second) = (digits >>> first) >>> second := by
  induction second with
  | zero => rfl
  | succ second induction => exact congrArg ExtendedMantissa.shiftRightOne induction

theorem mantissa_shift (digits : ExtendedMantissa) (count : Nat) :
    (digits >>> count).mantissa = digits.mantissa / 2 ^ count := by
  induction count with
  | zero => exact (Nat.div_one _).symm
  | succ count induction =>
      change (digits >>> count).mantissa / 2 = _
      rw [induction, Nat.div_div_eq_div_mul, Nat.pow_succ]

theorem shift_zeros (digits count : Nat) :
    ExtendedMantissa.mk (digits * 2 ^ count) false false >>> count = ⟨digits, false, false⟩ := by
  induction count generalizing digits with
  | zero => rw [Nat.pow_zero, Nat.mul_one]; rfl
  | succ count induction =>
      have doubled : digits * 2 ^ (count + 1) = digits * 2 * 2 ^ count := by ring
      rw [doubled, shift_add, induction]
      change ExtendedMantissa.shiftRightOne ⟨digits * 2, false, false⟩ = _
      simp [ExtendedMantissa.shiftRightOne]

theorem roundedMantissa_bounds (digits : ExtendedMantissa) :
    digits.mantissa ≤ digits.roundedMantissa ∧
      digits.roundedMantissa ≤ digits.mantissa + 1 := by
  rcases digits with ⟨digits, next, others⟩
  cases next <;> cases others <;>
    simp [ExtendedMantissa.roundedMantissa, ExtendedMantissa.accuracy,
      Float.Model.UnpackedFloat.Accuracy.roundToNearestEven]
  omega

/-! ## The upper 53 digits -/

def upper (number : Nat) : Nat :=
  (ExtendedMantissa.mk number false false >>> (number.log2 - 52)).roundedMantissa

def rounded (number : Nat) : Nat := upper number * 2 ^ (number.log2 - 52)

theorem upper_of_short {number : Nat} (short : number.log2 ≤ 52) : upper number = number := by
  rw [upper, Nat.sub_eq_zero_of_le short]
  rfl

theorem rounded_of_short {number : Nat} (short : number.log2 ≤ 52) : rounded number = number := by
  rw [rounded, upper_of_short short, Nat.sub_eq_zero_of_le short, Nat.pow_zero, Nat.mul_one]

theorem log2_mul_pow {number : Nat} (positive : number ≠ 0) (count : Nat) :
    (number * 2 ^ count).log2 = number.log2 + count := by
  induction count with
  | zero => rw [Nat.pow_zero, Nat.mul_one, Nat.add_zero]
  | succ count induction =>
      have doubled : number * 2 ^ (count + 1) = 2 * (number * 2 ^ count) := by ring
      rw [doubled, Nat.log2_two_mul (Nat.mul_ne_zero positive (Nat.two_pow_pos count).ne'),
        induction, Nat.add_assoc]

theorem upper_bounds {number : Nat} (long : 52 ≤ number.log2) :
    2 ^ 52 ≤ upper number ∧ upper number ≤ 2 ^ 53 := by
  have positive : number ≠ 0 := by
    rintro rfl
    simp at long
  have split : number.log2 = 52 + (number.log2 - 52) := by omega
  rcases roundedMantissa_bounds
    (ExtendedMantissa.mk number false false >>> (number.log2 - 52)) with ⟨lower, higher⟩
  rw [mantissa_shift] at lower higher
  have enough : 2 ^ 52 ≤ number / 2 ^ (number.log2 - 52) := by
    rw [Nat.le_div_iff_mul_le (Nat.two_pow_pos _), ← Nat.pow_add, ← split]
    exact Nat.log2_self_le positive
  have few : number / 2 ^ (number.log2 - 52) < 2 ^ 53 := by
    rw [Nat.div_lt_iff_lt_mul (Nat.two_pow_pos _), ← Nat.pow_add]
    have room : 53 + (number.log2 - 52) = number.log2 + 1 := by omega
    rw [room]
    exact Nat.lt_log2_self
  exact ⟨enough.trans lower, higher.trans few⟩

theorem upper_cases {number : Nat} (positive : number ≠ 0) :
    upper number < 2 ^ 53 ∧ upper number ≠ 0 ∨ upper number = 2 ^ 53 := by
  by_cases long : 52 ≤ number.log2
  · rcases upper_bounds long with ⟨enough, atMost⟩
    omega
  · rw [upper_of_short (by omega)]
    exact .inl ⟨(Nat.log2_lt positive).mp (by omega), positive⟩

/-- Where the point is makes no difference to what is rounded off. -/
theorem rounded_mul_pow (number count : Nat) :
    rounded (number * 2 ^ count) = rounded number * 2 ^ count := by
  rcases Nat.eq_zero_or_pos number with rfl | positive
  · rw [Nat.zero_mul]
    exact (Nat.zero_mul _).symm
  · have size := log2_mul_pow positive.ne' count
    by_cases long : 52 ≤ number.log2
    · have shifted : (number * 2 ^ count).log2 - 52 = count + (number.log2 - 52) := by omega
      simp only [rounded, upper]
      rw [shifted, shift_add, shift_zeros, Nat.pow_add]
      ring
    · rw [rounded_of_short (by omega : number.log2 ≤ 52)]
      by_cases short : (number * 2 ^ count).log2 ≤ 52
      · exact rounded_of_short short
      · -- The digits that are shifted out are some of the zeros.
        obtain ⟨kept, split⟩ : ∃ kept, count = kept + ((number * 2 ^ count).log2 - 52) :=
          ⟨count - ((number * 2 ^ count).log2 - 52), by omega⟩
        simp only [rounded, upper]
        generalize (number * 2 ^ count).log2 - 52 = zeros at split
        rw [split, Nat.pow_add, ← Nat.mul_assoc, shift_zeros]
        rfl

/-! ## Numbers with a binary point -/

/-- What a number is rounded to, wherever its point is. -/
def Rounds (exact result : ℚ) : Prop :=
  ∃ (number : Nat) (exponent : ℤ),
    exact = number * 2 ^ exponent ∧ result = rounded number * 2 ^ exponent

theorem mul_pow_mul_zpow (number count : Nat) (exponent : ℤ) :
    ((number * 2 ^ count : Nat) : ℚ) * 2 ^ exponent = number * 2 ^ (exponent + count) := by
  rw [zpow_add₀ two_ne_zero, zpow_natCast]
  push_cast
  ring

theorem Rounds.scale {exact result : ℚ} (rounds : Rounds exact result) (power : ℤ) :
    Rounds (exact * 2 ^ power) (result * 2 ^ power) := by
  rcases rounds with ⟨number, exponent, rfl, rfl⟩
  refine ⟨number, exponent + power, ?_, ?_⟩ <;> rw [zpow_add₀ two_ne_zero, mul_assoc]

theorem Rounds.nonnegative {exact result : ℚ} (rounds : Rounds exact result) : 0 ≤ result := by
  rcases rounds with ⟨number, exponent, _, rfl⟩
  exact mul_nonneg (Nat.cast_nonneg _) (zpow_pos two_pos exponent).le

theorem Rounds.unique_of_le {number other : Nat} {exponent later : ℤ}
    (ordered : exponent ≤ later)
    (same : (number : ℚ) * 2 ^ exponent = other * 2 ^ later) :
    (rounded number : ℚ) * 2 ^ exponent = rounded other * 2 ^ later := by
  obtain ⟨count, rfl⟩ := Int.le.dest ordered
  rw [← mul_pow_mul_zpow] at same
  have digits : number = other * 2 ^ count := by
    exact_mod_cast mul_right_cancel₀ (zpow_pos two_pos exponent).ne' same
  rw [digits, rounded_mul_pow, mul_pow_mul_zpow]

theorem Rounds.unique {exact result other : ℚ} (rounds : Rounds exact result)
    (also : Rounds exact other) : result = other := by
  rcases rounds with ⟨number, exponent, rfl, rfl⟩
  rcases also with ⟨second, later, same, rfl⟩
  rcases le_total exponent later with ordered | ordered
  · exact unique_of_le ordered same
  · exact (unique_of_le ordered same.symm).symm

end StoreBench.Binary
