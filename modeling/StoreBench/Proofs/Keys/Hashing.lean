import Mathlib.Algebra.Order.Group.Abs
import Mathlib.Algebra.Order.Ring.Abs
import Mathlib.Data.Int.ModEq
import Mathlib.Data.Set.Function
import Mathlib.Tactic.Linarith
import Mathlib.Tactic.Ring
import StoreBench.Distribution.Zipfian
import StoreBench.Hash
import StoreBench.Proofs.Numbers.Words

namespace StoreBench

/-! The hash tells all words below the bound on item counts apart.

Taking in a byte changes no more than the lowest eight bits of a hash before the multiplication. So
the difference of two hashes is a polynomial in the prime, with one small coefficient for each
byte. The prime is 435 above a power of two. Modulo the range of words, this leaves the polynomial
at 435 and its slope there, and few polynomials with five small coefficients get past both. -/

namespace Fnv

/-! ## One byte -/

def effect (hash byte : UInt64) : Int := ((hash ^^^ byte).toNat : Int) - hash.toNat

theorem absorb_modEq (hash byte : UInt64) :
    ((absorb hash byte).toNat : Int) ≡ prime.toNat * (hash.toNat + effect hash byte)
      [ZMOD 2 ^ 64] := by
  rw [absorb, UInt64.toNat_mul, effect, add_sub_cancel, mul_comm (prime.toNat : Int)]
  push_cast
  exact Int.mod_modEq _ _

theorem abs_effect_le {hash byte : UInt64} (small : byte.toNat < 256) :
    |effect hash byte| ≤ 255 := by
  have upper : (hash ^^^ byte).toNat / 2 ^ 8 = hash.toNat / 2 ^ 8 := by
    rw [UInt64.toNat_xor, ← Nat.shiftRight_eq_div_pow, ← Nat.shiftRight_eq_div_pow,
      Nat.shiftRight_xor_distrib, Nat.shiftRight_eq_zero byte.toNat 8 (by omega), Nat.xor_zero]
  rw [effect, abs_le]
  omega

theorem prime_isUnit : prime * 14886173955864302971 = 1 := by decide

theorem absorb_left_injective (byte : UInt64) :
    Function.Injective fun hash => absorb hash byte := by
  intro first second same
  exact (UInt64.xor_left_inj byte).mp (mul_injective_of_inverse prime_isUnit same)

/-! ## Words -/

def byteAt : Nat → UInt64 → UInt64
  | 0, word => word &&& 0xff
  | index + 1, word => byteAt index (word >>> 8)

theorem byteAt_toNat (index : Nat) (word : UInt64) :
    (byteAt index word).toNat = word.toNat / 256 ^ index % 256 := by
  induction index generalizing word with
  | zero =>
      rw [byteAt, UInt64.toNat_and, Nat.pow_zero, Nat.div_one]
      exact Nat.and_two_pow_sub_one_eq_mod word.toNat 8
  | succ index induction =>
      have shifted : (word >>> 8).toNat = word.toNat / 256 := by
        rw [UInt64.toNat_shiftRight]
        exact Nat.shiftRight_eq_div_pow word.toNat 8
      rw [byteAt, induction, shifted, Nat.div_div_eq_div_mul, Nat.pow_succ']

theorem absorbBytes_succ (count : Nat) (hash word : UInt64) :
    absorbBytes (count + 1) hash word =
      absorb (absorbBytes count hash word) (byteAt count word) := by
  induction count generalizing hash word with
  | zero => rfl
  | succ count induction => rw [absorbBytes, induction, absorbBytes, byteAt]

theorem absorbBytes_add_of_zero {count extra : Nat} {first second : UInt64}
    (firstZero : first.toNat < 256 ^ count) (secondZero : second.toNat < 256 ^ count)
    (hash : UInt64)
    (same : absorbBytes (count + extra) hash first = absorbBytes (count + extra) hash second) :
    absorbBytes count hash first = absorbBytes count hash second := by
  have zero (word : UInt64) (small : word.toNat < 256 ^ count) (extra : Nat) :
      byteAt (count + extra) word = 0 := by
    have power : 256 ^ count ≤ 256 ^ (count + extra) :=
      Nat.pow_le_pow_right (by decide) (Nat.le_add_right count extra)
    rw [← UInt64.toNat_inj, byteAt_toNat, Nat.div_eq_of_lt (Nat.lt_of_lt_of_le small power)]
    rfl
  induction extra with
  | zero => exact same
  | succ extra induction =>
      rw [← Nat.add_assoc, absorbBytes_succ, absorbBytes_succ, zero first firstZero,
        zero second secondZero] at same
      exact induction (absorb_left_injective 0 same)

/-! ## Differences -/

def valueAt (base : Int) : List Int → Int
  | [] => 0
  | digit :: rest => digit + base * valueAt base rest

def slopeAt (base : Int) : List Int → Int
  | [] => 0
  | _ :: rest => valueAt base rest + base * slopeAt base rest

/-- Two words that are taken in from one hash on, compared byte by byte: how much more the first
word changes its hash than the second one, the last byte first. -/
def effects (hash first second : UInt64) : Nat → List Int
  | 0 => []
  | count + 1 =>
      (effect (absorbBytes count hash first) (byteAt count first) -
          effect (absorbBytes count hash second) (byteAt count second)) ::
        effects hash first second count

@[simp] theorem length_effects (hash first second : UInt64) (count : Nat) :
    (effects hash first second count).length = count := by
  induction count with
  | zero => rfl
  | succ count induction => rw [effects, List.length_cons, induction]

theorem abs_le_of_mem_effects {hash first second : UInt64} {count : Nat} {digit : Int}
    (member : digit ∈ effects hash first second count) : |digit| ≤ 510 := by
  induction count with
  | zero => cases member
  | succ count induction =>
      rcases List.mem_cons.mp member with rfl | earlier
      · have byte (word : UInt64) : (byteAt count word).toNat < 256 := by
          rw [byteAt_toNat]
          exact Nat.mod_lt _ (by decide)
        refine (abs_sub _ _).trans ?_
        exact Int.add_le_add (abs_effect_le (byte first)) (abs_effect_le (byte second))
      · exact induction earlier

theorem absorbBytes_sub_modEq (hash first second : UInt64) (count : Nat) :
    ((absorbBytes count hash first).toNat : Int) - (absorbBytes count hash second).toNat ≡
      prime.toNat * valueAt prime.toNat (effects hash first second count) [ZMOD 2 ^ 64] := by
  induction count with
  | zero => simp [absorbBytes, effects, valueAt]
  | succ count induction =>
      rw [absorbBytes_succ, absorbBytes_succ, effects, valueAt]
      refine ((absorb_modEq _ _).sub (absorb_modEq _ _)).trans ?_
      rw [← mul_sub, add_sub_add_comm, add_comm]
      exact (induction.add_left _).mul_left _

theorem byteAt_eq_of_effects {hash first second : UInt64} {count : Nat}
    (alike : ∀ digit ∈ effects hash first second count, digit = 0) :
    absorbBytes count hash first = absorbBytes count hash second ∧
      ∀ index < count, byteAt index first = byteAt index second := by
  induction count with
  | zero => exact ⟨rfl, fun _ early => absurd early (Nat.not_lt_zero _)⟩
  | succ count induction =>
      rw [effects, List.forall_mem_cons] at alike
      rcases induction alike.2 with ⟨hashes, bytes⟩
      have last : byteAt count first = byteAt count second := by
        have equal := alike.1
        rw [hashes, effect, effect, sub_sub_sub_cancel_right, sub_eq_zero, Nat.cast_inj,
          UInt64.toNat_inj] at equal
        exact (UInt64.xor_right_inj _).mp equal
      constructor
      · rw [absorbBytes_succ, absorbBytes_succ, hashes, last]
      · intro index early
        rcases Nat.lt_succ_iff_lt_or_eq.mp early with before | rfl
        · exact bytes index before
        · exact last

/-! ## Expansions in a base -/

def residues (base bound value : Int) : List Int :=
  ((List.range ((2 * bound / base).toNat + 1)).map fun (step : Nat) =>
    (value + bound) % base - bound + base * step).filter (· ≤ bound)

def expansions (base bound : Int) : Nat → Int → List (List Int)
  | 0, value => if value = 0 then [[]] else []
  | count + 1, value =>
      (residues base bound value).flatMap fun digit =>
        (expansions base bound count ((value - digit) / base)).map (digit :: ·)

theorem mem_residues {base bound value digit : Int} (positive : 0 < base)
    (small : |digit| ≤ bound) (same : digit ≡ value [ZMOD base]) :
    digit ∈ residues base bound value := by
  rcases abs_le.mp small with ⟨lower, upper⟩
  refine List.mem_filter.mpr ⟨?_, decide_eq_true upper⟩
  refine List.mem_map.mpr ⟨((digit + bound) / base).toNat, List.mem_range.mpr ?_, ?_⟩
  · have most : (digit + bound) / base ≤ 2 * bound / base :=
      Int.ediv_le_ediv positive (by omega)
    omega
  · rw [Int.toNat_of_nonneg (Int.ediv_nonneg (by omega) positive.le),
      ← (same.add_right bound : (digit + bound) % base = _), sub_add_eq_add_sub,
      Int.emod_add_mul_ediv, add_sub_cancel_right]

theorem mem_expansions {base bound : Int} (positive : 0 < base) (digits : List Int)
    (small : ∀ digit ∈ digits, |digit| ≤ bound) :
    digits ∈ expansions base bound digits.length (valueAt base digits) := by
  induction digits with
  | nil => simp [expansions, valueAt]
  | cons digit rest induction =>
      rw [List.forall_mem_cons] at small
      refine List.mem_flatMap.mpr ⟨digit, mem_residues positive small.1 ?_, ?_⟩
      · exact (Int.modEq_add_fac_self).symm
      · rw [valueAt, add_sub_cancel_left, Int.mul_ediv_cancel_left _ positive.ne']
        exact List.mem_map_of_mem (induction small.2)

theorem abs_valueAt_le {bound : Int} {digits : List Int}
    (small : ∀ digit ∈ digits, |digit| ≤ bound) :
    |valueAt 435 digits| ≤ bound * valueAt 435 (List.replicate digits.length 1) := by
  induction digits with
  | nil => simp [valueAt]
  | cons digit rest induction =>
      rw [List.forall_mem_cons] at small
      have later := induction small.2
      have first := small.1
      rw [abs_le] at later first ⊢
      simp only [valueAt, List.length_cons, List.replicate_succ] at later ⊢
      constructor <;> linarith [later.1, later.2, first.1, first.2]

/-- As the square of the distance to the base is beyond all words, only the slope counts. -/
theorem valueAt_prime_modEq (digits : List Int) :
    valueAt prime.toNat digits ≡ valueAt 435 digits + 2 ^ 40 * slopeAt 435 digits
      [ZMOD 2 ^ 64] := by
  induction digits with
  | nil => rfl
  | cons digit rest induction =>
      have base : (prime.toNat : Int) = 435 + 2 ^ 40 := by decide
      rw [base] at induction ⊢
      simp only [valueAt, slopeAt]
      refine ((induction.mul_left (435 + 2 ^ 40)).add_left digit).trans ?_
      rw [Int.modEq_iff_dvd]
      exact ⟨-(2 ^ 16 * slopeAt 435 rest), by ring⟩

/-- Of the polynomials with five small coefficients whose values at the base are multiples of
the distance, only zero has the slope that cancels the multiple. -/
theorem expansions_of_slope :
    ∀ step ∈ List.range 33, ∀ digits ∈ expansions 435 510 5 (((step : Int) - 16) * 2 ^ 40),
      2 ^ 24 ∣ (step : Int) - 16 + slopeAt 435 digits → ∀ digit ∈ digits, digit = 0 := by
  decide +kernel

theorem eq_zero_of_valueAt_prime {digits : List Int} (five : digits.length = 5)
    (small : ∀ digit ∈ digits, |digit| ≤ 510)
    (zero : valueAt prime.toNat digits ≡ 0 [ZMOD 2 ^ 64]) : ∀ digit ∈ digits, digit = 0 := by
  have whole : 2 ^ 64 ∣ valueAt 435 digits + 2 ^ 40 * slopeAt 435 digits :=
    Int.modEq_zero_iff_dvd.mp ((valueAt_prime_modEq digits).symm.trans zero)
  have multiple : 2 ^ 40 ∣ valueAt 435 digits :=
    (Int.dvd_add_left (Dvd.intro _ rfl)).mp ((by decide : (2 ^ 40 : Int) ∣ 2 ^ 64).trans whole)
  rcases multiple with ⟨factor, value⟩
  have bounds := abs_valueAt_le small
  rw [five, value, abs_le] at bounds
  simp only [List.replicate, valueAt] at bounds
  have member := mem_expansions (by decide : (0 : Int) < 435) digits small
  have shown : (((factor + 16).toNat : Nat) : Int) - 16 = factor := by omega
  rw [five, value, mul_comm, ← shown] at member
  refine expansions_of_slope _ (List.mem_range.mpr (by omega)) digits member ?_
  rw [shown]
  rw [value, ← mul_add] at whole
  exact Int.dvd_of_mul_dvd_mul_left (by decide) whole

end Fnv

theorem Fnv.eq_of_byteAt {first second : UInt64} (firstSmall : first < Zipfian.itemLimit)
    (secondSmall : second < Zipfian.itemLimit)
    (bytes : ∀ index < 5, byteAt index first = byteAt index second) : first = second := by
  have digit (index : Nat) (early : index < 5) :
      first.toNat / 256 ^ index % 256 = second.toNat / 256 ^ index % 256 := by
    rw [← byteAt_toNat, ← byteAt_toNat, bytes index early]
  have digits := And.intro (digit 0 (by decide)) <| And.intro (digit 1 (by decide)) <|
    And.intro (digit 2 (by decide)) (And.intro (digit 3 (by decide)) (digit 4 (by decide)))
  rw [UInt64.lt_iff_toNat_lt] at firstSmall secondSmall
  have limit : Zipfian.itemLimit.toNat = 256 ^ 5 := rfl
  rw [← UInt64.toNat_inj]
  omega

theorem hashWord_injOn : Set.InjOn hashWord {word | word < Zipfian.itemLimit} := by
  intro first firstSmall second secondSmall same
  have eight : Fnv.absorbBytes (5 + 3) Fnv.basis first = Fnv.absorbBytes (5 + 3) Fnv.basis second :=
    same
  have five := Fnv.absorbBytes_add_of_zero (UInt64.lt_iff_toNat_lt.mp firstSmall)
    (UInt64.lt_iff_toNat_lt.mp secondSmall) Fnv.basis eight
  have difference := Fnv.absorbBytes_sub_modEq Fnv.basis first second 5
  rw [five, sub_self] at difference
  -- The prime is odd, so the polynomial itself vanishes.
  have zero : 2 ^ 64 ∣ Fnv.valueAt Fnv.prime.toNat (Fnv.effects Fnv.basis first second 5) :=
    Int.dvd_of_dvd_mul_right_of_gcd_one (Int.modEq_zero_iff_dvd.mp difference.symm) (by decide)
  have alike := Fnv.eq_zero_of_valueAt_prime (Fnv.length_effects Fnv.basis first second 5)
    (fun _ => Fnv.abs_le_of_mem_effects) (Int.modEq_zero_iff_dvd.mpr zero)
  exact Fnv.eq_of_byteAt firstSmall secondSmall (Fnv.byteAt_eq_of_effects alike).2

end StoreBench
