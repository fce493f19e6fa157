import StoreBench.Proofs.Drawing.Completes
import StoreBench.Proofs.Drawing.Histories

namespace StoreBench

/-! Targets without redraws. Even draws range over the loaded keys, draws that favour the newest
keys count back from the frontier, and scattered draws range over the loaded keys and those that
room is made for. Without such room no candidate is ever past the frontier, which was at the last
loaded key once and never moves back. -/

namespace KeyChoice

variable {choice : KeyChoice} {newest number : UInt64}

/-- No candidate is past the newest number. Draws that favour the newest numbers are told which
one it is, so there is nothing to ask of them. -/
def Confined (newest : UInt64) : KeyChoice → Prop
  | .uniform even => even.upper ≤ newest
  | .scrambled scattered =>
      scattered.Below scattered.items ∧ scattered.items.toNat ≤ newest.toNat + 1
  | .latest _ => True

theorem confined_bare (choice : KeyChoice) (newest : UInt64) :
    choice.bare.Confined newest ↔ choice.Confined newest := by
  cases choice with
  | uniform | latest => exact Iff.rfl
  | scrambled scattered => exact and_congr_left' (Scrambled.below_bare scattered)

theorem Confined.mono {later : UInt64} (confined : choice.Confined newest)
    (grown : newest ≤ later) : choice.Confined later := by
  cases choice with
  | uniform even => exact UInt64.le_trans confined grown
  | scrambled scattered =>
      rw [UInt64.le_iff_toNat_le] at grown
      exact ⟨confined.1, Nat.le_trans confined.2 (Nat.succ_le_succ grown)⟩
  | latest recent => trivial

theorem Confined.le_of_draw {σ : Type} [WordSource σ] {after : KeyChoice} {source rest : σ}
    (confined : choice.Confined newest)
    (drawn : choice.draw newest source = .ok (number, after, rest)) : number ≤ newest := by
  cases choice with
  | uniform even =>
      cases drawn
      exact UInt64.le_trans (drawBetween_mem even.lower_le_upper source).2 confined
  | scrambled scattered =>
      rcases confined with ⟨below, few⟩
      rcases draw_scrambled_eq_ok_iff.mp drawn with ⟨_, scatteredDrawn, _⟩
      have within : scattered.Within 0 newest :=
        ⟨below.base, by rw [below.base, UInt64.toNat_zero, Nat.zero_add]; exact few, below.ranks⟩
      exact (within.of_draw scatteredDrawn).2.2.2
  | latest recent =>
      rcases bind_eq_ok_iff.mp drawn with ⟨⟨counted, _⟩, recentDrawn, result⟩
      cases result
      rcases Latest.draw_eq_ok_iff.mp recentDrawn with ⟨age, _, _, subtracted, _⟩
      have sum := checkedSub_eq_ok_iff.mp subtracted
      rw [UInt64.le_iff_toNat_le]
      omega

end KeyChoice

namespace Workload

open Drawing

variable {properties : Properties} {workload before : Workload} {proportions : Proportions}

/-- Scattered keys have no room for new ones. The other choices never make any. -/
def Unreserved (workload : Workload) (proportions : Proportions) : Prop :=
  workload.requestDistribution = .zipfian → ∀ operations,
    workload.operationCount? = some operations →
      KeyChoice.reserve operations proportions.insert = 0

theorem Configured.confined (configured : Configured properties workload)
    (read : proportionsOf properties = .ok proportions)
    (unreserved : workload.Unreserved proportions) :
    workload.keys.Confined workload.frontier.last := by
  have made := (configured.of_proportions read).2
  cases distribution : workload.requestDistribution with
  | uniform =>
      rcases configured.clear distribution with ⟨even, keys, upper⟩
      rw [keys]
      exact upper
  | latest =>
      rw [distribution] at made
      rcases bind_eq_ok_iff.mp made with ⟨recent, _, made⟩
      rw [← pure_eq_ok_iff.mp made]
      trivial
  | zipfian =>
      rcases configured.keys_scrambled distribution with ⟨scattered, keys, below⟩
      rw [distribution, keys] at made
      cases given : workload.operationCount? with
      | none =>
          rw [given] at made
          cases made
      | some operations =>
          rw [given] at made
          rcases KeyChoice.items_of_make made with ⟨_, same, items⟩
          cases same
          rw [unreserved distribution operations given, UInt64.toNat_zero, Nat.add_zero] at items
          have last : (Frontier.startingAt workload.recordCount).last.toNat + 1 = _ :=
            Frontier.last_toNat configured.recordCount_positive
          rw [keys, configured.frontier]
          refine ⟨below, ?_⟩
          rw [items, last]
          exact Nat.le_refl _

theorem Reached.confined (configured : Configured properties workload)
    (read : proportionsOf properties = .ok proportions)
    (unreserved : workload.Unreserved proportions) (reached : Reached workload before) :
    before.keys.Confined before.frontier.last := by
  have start := (KeyChoice.confined_bare workload.keys _).mpr
    (configured.confined read unreserved)
  rw [← reached.keys_eq, KeyChoice.confined_bare] at start
  exact start.mono (reached.last_le configured.frontier configured.recordCount_positive)

variable {σ : Type} [WordSource σ]

/-- A workload that makes no room for new keys takes the first candidate for every target,
whatever it was used for before and whatever the words are, however many more draws it may make.
The candidate stays within the frontier however long it takes to compare them. -/
theorem first_candidate_taken (accepted : ofProperties properties = .ok workload)
    (read : proportionsOf properties = .ok proportions)
    (unreserved : workload.Unreserved proportions) (reached : Reached workload before)
    (small : before.frontier.last < Zipfian.itemLimit) (source : σ) :
    ∃ number after rest, drawNumber.run (before, source) = .ok (number, after, rest) ∧
      number ≤ before.frontier.last ∧
      (∀ draws, (drawTargetWithin (draws + 1)).run (before, source) = .ok (number, after, rest)) ∧
      drawTarget.run (before, source) = .ok (number, after, rest) ∧
      ∀ later, Reached after later → number ≤ later.frontier.last := by
  have configured := configured_of_ofProperties accepted
  have fresh := configured.frontier
  have positive := configured.recordCount_positive
  have serving : Serving workload before :=
    ⟨reached.idle_eq, reached.last_le fresh positive, small⟩
  rcases completes_drawNumber configured source serving with ⟨number, after, rest, drawn, _⟩
  have kept := frontier_eq_of_bare (drawNumber_keeps drawn)
  have within : number ≤ before.frontier.last := by
    rcases run_drawNumber_eq_ok_iff.mp drawn with ⟨keys, chosen, _⟩
    exact (reached.confined configured read unreserved).le_of_draw chosen
  have target := drawTarget_of_le drawn (kept ▸ within)
  refine ⟨number, after, rest, drawn, within, drawTargetWithin_of_le drawn (kept ▸ within),
    target, ?_⟩
  intro later onwards
  have further := (reached.drew .target target).last_le_later fresh positive onwards
  rw [kept] at further
  exact UInt64.le_trans within further

def fewInserts : Properties where
  table := [("recordcount", .integer 5), ("operationcount", .integer 2),
    ("requestdistribution", .text "zipfian"), ("insertproportion", .float 0.2)]

/-- There may be inserts all the same, which leave the keys that are drawn where they were. -/
theorem first_candidate_taken_fewInserts :
    ∃ workload before, ofProperties fewInserts = .ok workload ∧
      workload.requestDistribution = .zipfian ∧ workload.acknowledge 5 = .ok before ∧
      ∀ words : Nat → UInt64, ∃ number after rest,
        drawNumber.run (before, words) = .ok (number, after, rest) ∧ number ≤ 5 ∧
        drawTarget.run (before, words) = .ok (number, after, rest) := by
  have computed : (ofProperties fewInserts).toOption.bind (fun workload =>
      (workload.acknowledge 5).toOption.map fun before =>
        (workload.requestDistribution, workload.operationCount?, before.frontier.last)) =
      some (.zipfian, some 2, 5) := by decide +kernel
  rcases Option.bind_eq_some_iff.mp computed with ⟨workload, accepted, computed⟩
  rcases Option.map_eq_some_iff.mp computed with ⟨before, acknowledged, parts⟩
  simp only [Prod.mk.injEq] at parts
  rcases parts with ⟨zipfian, operations, last⟩
  rw [toOption_eq_some_iff] at accepted acknowledged
  have unreserved : workload.Unreserved ⟨0.95, 0.05, 0.2, 0, 0⟩ := by
    intro _ count given
    cases operations.symm.trans given
    decide +kernel
  refine ⟨workload, before, accepted, zipfian, acknowledged, fun words => ?_⟩
  rcases first_candidate_taken accepted rfl unreserved (.acknowledged .start acknowledged)
    (last ▸ by decide) words with ⟨number, after, rest, drawn, within, _, target, _⟩
  exact ⟨number, after, rest, drawn, last ▸ within, target⟩

end Workload
end StoreBench
