import Mathlib.Logic.Function.Iterate
import StoreBench.Benchmark.Run
import StoreBench.Proofs.Numbers.Words

namespace StoreBench

/-! Seeded workers draw from different states. A worker has a seed of its own, also where the sum
that it is made of wraps, and neither the way from a seed to a state nor the way from a state to
the next one loses anything. -/

/-! ## From a seed to a state -/

namespace SplitMix

theorem mix_injective : Function.Injective mix := by
  intro left right same
  have firstUnit : (0xbf58476d1ce4e5b9 : UInt64) * 0x96de1b173f119089 = 1 := by decide
  have secondUnit : (0x94d049bb133111eb : UInt64) * 0x319642b2d24d8ec3 = 1 := by decide
  have multiplied := xor_shiftRight_injective (by decide) same
  have mixed := mul_injective_of_inverse secondUnit multiplied
  have begun := xor_shiftRight_injective (by decide) mixed
  exact xor_shiftRight_injective (by decide) (mul_injective_of_inverse firstUnit begun)

theorem output_injective (position : UInt64) :
    Function.Injective fun seed => output seed position := by
  intro left right same
  exact (UInt64.add_left_inj _).mp (mix_injective same)

end SplitMix

namespace Xoshiro

theorem ofSeed_injective : Function.Injective ofSeed := by
  intro left right same
  exact SplitMix.output_injective 1 (congrArg first same)

/-! ## From a state to the next -/

def advance (count : Nat) : Xoshiro → Xoshiro := (fun state => state.next.2)^[count]

/-- The rotation gives back the mix of the second word and the fourth, and with it the first word.
What is known of the third word then leaves the second word mixed with itself. -/
theorem next_injective : Function.Injective fun state : Xoshiro => state.next.2 := by
  intro left right same
  simp only [next, mk.injEq] at same
  rcases same with ⟨first, second, third, fourth⟩
  have mixed : left.fourth ^^^ left.second = right.fourth ^^^ right.second :=
    rotateLeft_injective fourth
  rw [mixed] at first
  have firsts : left.first = right.first := (UInt64.xor_left_inj _).mp first
  have seconds : left.second = right.second := by
    apply xor_shiftLeft_injective
    exact eq_of_xor_eq ((eq_of_xor_eq second).trans (eq_of_xor_eq third))
  rw [seconds, firsts] at second
  have thirds : left.third = right.third :=
    (UInt64.xor_left_inj _).mp ((UInt64.xor_right_inj _).mp second)
  rw [seconds] at mixed
  have fourths : left.fourth = right.fourth := (UInt64.xor_left_inj _).mp mixed
  cases left
  cases right
  exact mk.injEq .. ▸ ⟨firsts, seconds, thirds, fourths⟩

theorem advance_injective (count : Nat) : Function.Injective (advance count) :=
  next_injective.iterate count

end Xoshiro

/-! ## From a worker to a seed -/

namespace Phase

theorem number_injective : Function.Injective number := by
  intro phase other same
  cases phase with
  | load =>
      cases other with
      | load => rfl
      | transactions => cases same
  | transactions =>
      cases other with
      | load => cases same
      | transactions => rfl

theorem toNat_offset (phase : Phase) {worker : Nat} (few : worker < 2 ^ 32) :
    ((phase.number <<< 32) + UInt64.ofNat worker).toNat =
      phase.number.toNat * 2 ^ 32 + worker := by
  have id : (UInt64.ofNat worker).toNat = worker :=
    UInt64.toNat_ofNat_of_lt' (Nat.lt_trans few (by decide))
  have shifted : (phase.number <<< 32).toNat = phase.number.toNat * 2 ^ 32 := by
    cases phase <;> rfl
  have small : phase.number.toNat ≤ 1 := by
    cases phase <;> decide
  rw [UInt64.toNat_add, id, shifted, Nat.mod_eq_of_lt (by omega)]

theorem eq_of_seed_eq {seed : UInt64} {phase other : Phase} {worker another : Nat}
    (few : worker < 2 ^ 32) (alsoFew : another < 2 ^ 32)
    (same : phase.seed seed worker = other.seed seed another) :
    phase = other ∧ worker = another := by
  simp only [Phase.seed, UInt64.add_assoc] at same
  have offsets := congrArg UInt64.toNat ((UInt64.add_right_inj seed).mp same)
  rw [toNat_offset phase few, toNat_offset other alsoFew] at offsets
  have numbers : phase.number = other.number := UInt64.toNat_inj.mp (by omega)
  rw [numbers] at offsets
  exact ⟨number_injective numbers, Nat.add_left_cancel offsets⟩

end Phase

namespace Run

/-- Two workers of a run with a seed, of one phase or of both, start from different states, and no
number of words brings them to the same one. -/
theorem sources_never_meet {benchmark : Benchmark} {seed : UInt64}
    (seeded : benchmark.seed? = some seed) (entropy : UInt64) {first second : Phase × Nat}
    (firstFew : first.2 < 2 ^ 32) (secondFew : second.2 < 2 ^ 32) (different : first ≠ second) :
    sources benchmark entropy first.1 first.2 ≠ sources benchmark entropy second.1 second.2 ∧
      ∀ count, (sources benchmark entropy first.1 first.2).advance count ≠
        (sources benchmark entropy second.1 second.2).advance count := by
  have apart :
      sources benchmark entropy first.1 first.2 ≠ sources benchmark entropy second.1 second.2 := by
    intro same
    rw [sources, sources, seeded, Option.getD_some] at same
    have seeds := Xoshiro.ofSeed_injective same
    rcases Phase.eq_of_seed_eq firstFew secondFew seeds with ⟨phases, workers⟩
    exact different (Prod.ext phases workers)
  exact ⟨apart, fun count same => apart (Xoshiro.advance_injective count same)⟩

def aroundZero : Benchmark where
  threads := 4294967296
  threads_pos := by decide
  latency := false
  pin := false
  seed? := some 18446744069414584320
  verbosity := .hidden
  skipLoad := false

/-- The last worker of the load has the greatest seed, and the first one of the transactions the
next, which is zero. -/
theorem sources_never_meet_aroundZero :
    sources aroundZero 0 .load 4294967295 = .ofSeed 18446744073709551615 ∧
      sources aroundZero 0 .transactions 0 = .ofSeed 0 ∧
      ∀ count, (sources aroundZero 0 .load 4294967295).advance count ≠
        (sources aroundZero 0 .transactions 0).advance count := by
  have apart := @sources_never_meet aroundZero 18446744069414584320 rfl 0 (.load, 4294967295)
    (.transactions, 0) (by decide) (by decide) (by decide)
  exact ⟨rfl, rfl, apart.2⟩

end Run
end StoreBench
