import Mathlib.Algebra.GroupWithZero.Nat
import Mathlib.Data.List.Forall2
import StoreBench.Benchmark.Report

namespace StoreBench

/-! What measurements count. A measurement that was taken along with some operations has counted
each of them once, under its kind, and a sum of measurements has counted the operations of all. -/

theorem Tallies.executed_eq_sum (tallies : Tallies) :
    tallies.executed =
      (Operation.all.map fun operation => (tallies.of operation).executed).sum := by
  rw [executed, ← Vector.foldl_toList, toList_entries, List.foldl_map, List.sum_eq_foldl_nat,
    List.foldl_map]

theorem Tallies.ok_eq_sum (tallies : Tallies) :
    tallies.ok = (Operation.all.map fun operation => (tallies.of operation).ok).sum := by
  rw [ok, ← Vector.foldl_toList, toList_entries, List.foldl_map, List.sum_eq_foldl_nat,
    List.foldl_map]

namespace Measurement

variable {latency : Bool} {outcomes others : List Outcome} {measurement other : Measurement}

structure Counts (latency : Bool) (outcomes : List Outcome) (measurement : Measurement) :
    Prop where
  executed : ∀ operation, (measurement.tallies.of operation).executed =
    outcomes.countP fun outcome => outcome.operation = operation
  ok : ∀ operation, (measurement.tallies.of operation).ok =
    outcomes.countP fun outcome => outcome.operation = operation ∧ outcome.status.isOk
  latency : measurement.latency?.map Histogram.size =
    if latency then some outcomes.length else none

theorem counts_blank (latency : Bool) : Counts latency [] (blank latency) where
  executed operation := by rw [blank, Tallies.of_zero]; rfl
  ok operation := by rw [blank, Tallies.of_zero]; rfl
  latency := by cases latency <;> rfl

theorem Counts.record (counts : Counts latency outcomes measurement) (outcome : Outcome)
    (elapsed : Nat) :
    Counts latency (outcomes ++ [outcome])
      (measurement.record outcome.operation outcome.status.isOk elapsed) where
  executed operation := by
    rw [Measurement.record, Tallies.of_count, List.countP_append, List.countP_singleton]
    by_cases same : operation = outcome.operation
    · subst same
      simp [Tally.count, counts.executed]
    · have different : outcome.operation ≠ operation := Ne.symm same
      simp [same, different, counts.executed]
  ok operation := by
    rw [Measurement.record, Tallies.of_count, List.countP_append, List.countP_singleton]
    by_cases same : operation = outcome.operation
    · subst same
      cases outcome.status.isOk <;> simp [Tally.count, counts.ok]
    · have different : outcome.operation ≠ operation := Ne.symm same
      simp [same, different, counts.ok]
  latency := by
    have before := counts.latency
    cases kept : measurement.latency? with
    | none =>
        cases latency
        · simp [Measurement.record, kept]
        · simp [kept] at before
    | some histogram =>
        cases latency
        · simp [kept] at before
        · simpa [Measurement.record, kept] using before

theorem Counts.merge (counts : Counts latency outcomes measurement)
    (otherCounts : Counts latency others other) :
    Counts latency (outcomes ++ others) (measurement.merge other) where
  executed operation := by
    rw [Measurement.merge, Tallies.of_merge, List.countP_append, ← counts.executed,
      ← otherCounts.executed]
    rfl
  ok operation := by
    rw [Measurement.merge, Tallies.of_merge, List.countP_append, ← counts.ok, ← otherCounts.ok]
    rfl
  latency := by
    have left := counts.latency
    have right := otherCounts.latency
    cases kept : measurement.latency? with
    | none =>
        cases latency
        · simp [Measurement.merge, mergeLatency, kept]
        · simp [kept] at left
    | some histogram =>
        cases latency with
        | false => simp [kept] at left
        | true =>
            rcases Option.map_eq_some_iff.mp right with ⟨otherHistogram, otherKept, size⟩
            simp only [kept, Option.map_some, if_true, Option.some.injEq] at left
            simp [Measurement.merge, mergeLatency, kept, otherKept, left, size]

theorem counts_total {work : List (List Outcome)} {measurements : List Measurement}
    (each : List.Forall₂ (Counts latency) work measurements) :
    Counts latency work.flatten (total latency measurements) := by
  have added (before : List Outcome) (sum : Measurement) (counted : Counts latency before sum) :
      Counts latency (before ++ work.flatten) (measurements.foldl Measurement.merge sum) := by
    induction each generalizing before sum with
    | nil => simpa using counted
    | cons own others induction =>
        rw [List.flatten_cons, ← List.append_assoc]
        exact induction _ _ (counted.merge own)
  exact added [] _ (counts_blank latency)

/-! ## All kinds together -/

theorem sum_countP_operation (outcomes : List Outcome) :
    (Operation.all.map fun operation =>
      outcomes.countP fun outcome => outcome.operation = operation).sum = outcomes.length := by
  induction outcomes with
  | nil => rfl
  | cons outcome rest induction =>
      simp only [List.countP_cons, List.length_cons, ← induction]
      cases outcome.operation <;> simp [Operation.all] <;> omega

theorem Counts.executed_eq (counts : Counts latency outcomes measurement) :
    measurement.tallies.executed = outcomes.length := by
  rw [Tallies.executed_eq_sum, ← sum_countP_operation]
  simp only [counts.executed]

end Measurement
end StoreBench
