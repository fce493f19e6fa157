import Mathlib.Data.List.Forall2
import StoreBench.Proofs.Drawing.Scattered
import StoreBench.Proofs.Numbers.Values
import StoreBench.Workload.Mix

namespace StoreBench

/-! Weights that are all multiplied by one power of two. Sums, products and what they are
rounded to are multiplied by it as well, so a draw chooses the same value, unless a sum of
weights becomes too large or a share of the total too small for all its digits. -/

open Binary
open Float.Model.UnpackedFloat (Sign)

/-- A number is multiplied by a power of two without rounding. What stands for no number stays
as it is. -/
def ScaledBy (power : ℤ) (number multiple : Float) : Prop :=
  match valueOf? number with
  | some value => valueOf? multiple = some (value * 2 ^ power)
  | none => multiple = number

section Scaling

variable {power : ℤ}

theorem ScaledBy.pos_iff {number multiple : Float} (scaled : ScaledBy power number multiple) :
    0 < number ↔ 0 < multiple := by
  unfold ScaledBy at scaled
  split at scaled
  next value stands =>
    rw [pos_iff_of_value stands, pos_iff_of_value scaled,
      mul_pos_iff_of_pos_right (zpow_pos two_pos power)]
  next => rw [scaled]

theorem ScaledBy.of_unpack {number multiple : Float} {sign : Sign} {digits : Nat} {exponent : ℤ}
    {nonzero : 0 < digits} (unpacked : number.toModel.unpack = .finite sign digits exponent nonzero)
    (moved : multiple.toModel.unpack = .finite sign digits (exponent + power) nonzero) :
    ScaledBy power number multiple := by
  simp only [ScaledBy, valueOf?, unpacked, moved]
  rw [zpow_add₀ two_ne_zero, mul_assoc]

theorem ScaledBy.zero : ScaledBy power 0 0 := by
  change some (0 : ℚ) = some (0 * 2 ^ power)
  rw [zero_mul]

/-! ## Sums -/

inductive Sums (power : ℤ) : Float → Float → Prop where
  | finite {sum other : Float} {value : ℚ} (stands : valueOf? sum = some value)
      (stands' : valueOf? other = some (value * 2 ^ power)) (nonnegative : 0 ≤ value) :
      Sums power sum other
  | infinite : Sums power infinity infinity

theorem sums_zero : Sums power 0 0 :=
  .finite (rfl : valueOf? 0 = some 0) (by rw [zero_mul]; rfl) le_rfl

theorem sums_of_holds {sum other : Float} {result : ℚ} (holds : Holds result sum)
    (holds' : Holds (result * 2 ^ power) other) (nonnegative : 0 ≤ result)
    (overflow : sum.isInf = other.isInf) : Sums power sum other := by
  cases holds with
  | small _ stands =>
      cases holds' with
      | small _ stands' => exact .finite stands stands' nonnegative
      | large =>
          rw [isInf_of_value stands, isInf_infinity] at overflow
          cases overflow
  | large =>
      cases holds' with
      | small _ stands' =>
          rw [isInf_of_value stands', isInf_infinity] at overflow
          cases overflow
      | large => exact .infinite

theorem Sums.add {sum other weight multiple : Float} (sums : Sums power sum other)
    (scaled : ScaledBy power weight multiple) (positive : 0 < weight)
    (overflow : (sum + weight).isInf = (other + multiple).isInf) :
    Sums power (sum + weight) (other + multiple) := by
  have positive' := scaled.pos_iff.mp positive
  cases sums with
  | infinite =>
      rw [infinity_add positive, infinity_add positive']
      exact .infinite
  | @finite _ _ value stands stands' nonnegative =>
      unfold ScaledBy at scaled
      split at scaled
      next more weighs =>
        have some : 0 < more := (pos_iff_of_value weighs).mp positive
        have some' : 0 < more * 2 ^ power := (pos_iff_of_value scaled).mp positive'
        rcases nonnegative.eq_or_lt with rfl | large
        · rw [zero_mul] at stands'
          exact .finite (valueOf?_zero_add stands weighs some)
            (valueOf?_zero_add stands' scaled some') some.le
        · rcases holds_add stands weighs large some with ⟨result, rounds, holds⟩
          rcases holds_add stands' scaled (mul_pos large (zpow_pos two_pos power)) some' with
            ⟨result', rounds', holds'⟩
          rw [← add_mul] at rounds'
          cases rounds'.unique (rounds.scale power)
          exact sums_of_holds holds holds' rounds.nonnegative overflow
      next weighs =>
        have infinite := unpack_of_pos positive weighs
        rw [scaled, add_infinity stands infinite, add_infinity stands' infinite]
        exact .infinite

/-! ## Targets -/

/-- Two targets that the same sums reach. -/
def Targets (power : ℤ) (target other : Float) : Prop :=
  ∀ sum sum' : Float, Sums power sum sum' → (target ≤ sum ↔ other ≤ sum')

theorem targets_of_holds {target other : Float} {result : ℚ} (holds : Holds result target)
    (holds' : Holds (result * 2 ^ power) other) (nonnegative : 0 ≤ result) :
    Targets power target other := by
  have scale : (0 : ℚ) < 2 ^ power := zpow_pos two_pos power
  intro sum sum' sums
  cases sums with
  | infinite => exact iff_of_true (le_infinity_of_holds holds) (le_infinity_of_holds holds')
  | finite stands stands' nonnegative' =>
      rw [le_iff_of_holds holds stands nonnegative nonnegative',
        le_iff_of_holds holds' stands' (mul_nonneg nonnegative scale.le)
          (mul_nonneg nonnegative' scale.le), mul_le_mul_iff_left₀ scale]

theorem targets_of_infinite {target : Float} (infinite : target = infinity) :
    Targets power target target := by
  intro sum sum' sums
  cases sums with
  | infinite => exact Iff.rfl
  | finite stands stands' _ =>
      rw [infinite]
      exact iff_of_false (not_infinity_le stands) (not_infinity_le stands')

theorem targets_of_notANumber {target : Float} (none : target.toModel.unpack = .notANumber) :
    Targets power target target := by
  intro sum sum' _
  rw [le_iff_unpack, le_iff_unpack, none]
  exact Iff.rfl

/-- Every share of a total has all its digits if the total is not less than this. -/
def leastTotal : Float := .ofBits 0x0360000000000000

theorem value_leastTotal : valueOf? leastTotal = some (2 ^ (-969 : ℤ)) := by
  have unpacked : leastTotal.toModel.unpack =
      .finite .positive (2 ^ 52) (-1021) (by decide) := rfl
  rw [valueOf?_of_unpack unpacked, Nat.cast_pow, ← zpow_natCast, Nat.cast_ofNat,
    ← zpow_add₀ two_ne_zero]
  rfl

theorem value_fractionOf (word : UInt64) :
    valueOf? (fractionOf word) = some (((word >>> 11).toNat : ℚ) / 2 ^ 53) := by
  have short : (word >>> 11).toNat < 2 ^ 53 := by
    rw [UInt64.toNat_shiftRight, Nat.shiftRight_eq_div_pow]
    exact Nat.div_lt_of_lt_mul word.toNat_lt
  rcases Nat.eq_zero_or_pos (word >>> 11).toNat with zero | positive
  · have nothing : valueOf? ((0 : UInt64).toFloat / 9007199254740992) = some 0 := rfl
    have word : word >>> 11 = 0 := UInt64.toNat_inj.mp zero
    rw [zero, Nat.cast_zero, zero_div, ← nothing, fractionOf, word]
  · exact value_div_pow53 (value_toFloat short) (by exact_mod_cast positive)

theorem fractionOf_cases (word : UInt64) :
    valueOf? (fractionOf word) = some 0 ∨
      ∃ value, valueOf? (fractionOf word) = some value ∧ (2 : ℚ) ^ (-53 : ℤ) ≤ value := by
  rcases Nat.eq_zero_or_pos (word >>> 11).toNat with zero | positive
  · left
    rw [value_fractionOf, zero, Nat.cast_zero, zero_div]
  · refine .inr ⟨_, value_fractionOf word, ?_⟩
    rw [zpow_neg, ← one_div]
    exact div_le_div_of_nonneg_right (by exact_mod_cast positive) (by positivity)

theorem targets_fractionOf (word : UInt64) {total other : Float} (sums : Sums power total other)
    (enough : leastTotal ≤ total) (enough' : leastTotal ≤ other) :
    Targets power (fractionOf word * total) (fractionOf word * other) := by
  have scale : (0 : ℚ) < 2 ^ power := zpow_pos two_pos power
  rcases fractionOf_cases word with zero | ⟨value, fraction, large⟩
  · cases sums with
    | infinite => exact targets_of_notANumber (zero_mul_infinity zero)
    | finite stands stands' =>
        have holds := holds_of_value (zero_mul_value zero stands) le_rfl
        have holds' := holds_of_value (zero_mul_value zero stands') le_rfl
        exact targets_of_holds holds ((zero_mul ((2 : ℚ) ^ power)).symm ▸ holds') le_rfl
  · cases sums with
    | infinite =>
        exact targets_of_infinite (mul_infinity fraction ((zpow_pos two_pos _).trans_le large))
    | finite stands stands' nonnegative =>
        have least (total : Float) {value : ℚ} (stands : valueOf? total = some value)
            (nonnegative : 0 ≤ value) (enough : leastTotal ≤ total) : 2 ^ (-969 : ℤ) ≤ value :=
          (le_iff_of_values value_leastTotal stands (zpow_pos two_pos _).le nonnegative).mp enough
        rcases holds_mul fraction stands large (least _ stands nonnegative enough) (by norm_num)
          (by norm_num) (by norm_num) with ⟨result, rounds, holds⟩
        rcases holds_mul fraction stands' large
          (least _ stands' (mul_nonneg nonnegative scale.le) enough') (by norm_num)
          (by norm_num) (by norm_num) with ⟨result', rounds', holds'⟩
        rw [← mul_assoc] at rounds'
        cases rounds'.unique (rounds.scale power)
        exact targets_of_holds holds holds' rounds.nonnegative

end Scaling

/-! ## Choices by weight -/

namespace Weighted

variable {α : Type} {power : ℤ}

def sums : Float → List (α × Float) → List Float
  | _, [] => []
  | sum, (_, weight) :: rest => (sum + weight) :: sums (sum + weight) rest

def Multiples (power : ℤ) : List (α × Float) → List (α × Float) → Prop :=
  List.Forall₂ fun entry other =>
    entry.1 = other.1 ∧ 0 < entry.2 ∧ ScaledBy power entry.2 other.2

theorem firstReaching_multiples {target other sum sum' : Float}
    {entries others : List (α × Float)} (targets : Targets power target other)
    (multiples : Multiples power entries others) (start : Sums power sum sum')
    (overflow : (sums sum entries).map Float.isInf = (sums sum' others).map Float.isInf) :
    firstReaching target sum entries = firstReaching other sum' others := by
  induction multiples generalizing sum sum' with
  | nil => rfl
  | @cons entry entry' rest rest' multiple _ induction =>
      rcases entry with ⟨value, weight⟩
      rcases entry' with ⟨value', weight'⟩
      rcases multiple with ⟨rfl, positive, scaled⟩
      rcases List.cons.inj overflow with ⟨both, later⟩
      have next := start.add scaled positive both
      simp only [firstReaching, targets _ _ next, induction next later]

theorem sums_multiples {sum sum' : Float} {entries others : List (α × Float)}
    (multiples : Multiples power entries others) (start : Sums power sum sum')
    (overflow : (sums sum entries).map Float.isInf = (sums sum' others).map Float.isInf) :
    Sums power (entries.foldl (fun sum entry => sum + entry.2) sum)
      (others.foldl (fun sum entry => sum + entry.2) sum') := by
  induction multiples generalizing sum sum' with
  | nil => exact start
  | cons multiple _ induction =>
      rcases multiple with ⟨_, positive, scaled⟩
      rcases List.cons.inj overflow with ⟨both, later⟩
      exact induction (start.add scaled positive both) later

theorem getLast?_multiples {entries others : List (α × Float)}
    (multiples : Multiples power entries others) :
    entries.getLast?.map Prod.fst = others.getLast?.map Prod.fst := by
  rw [← List.getLast?_map, ← List.getLast?_map]
  congr 1
  induction multiples with
  | nil => rfl
  | cons multiple _ induction => rw [List.map_cons, List.map_cons, multiple.1, induction]

end Weighted
end StoreBench
