import StoreBench.Benchmark.Histogram
import StoreBench.Session

namespace StoreBench

/-! What is measured in a phase. Every worker counts its operations apart from the other
workers, kind by kind, and keeps their latencies if it is asked to. When all workers are
done, their measurements are added up. -/

structure Tally where
  executed : Nat
  ok : Nat
  deriving DecidableEq, Repr

namespace Tally

def zero : Tally := ⟨0, 0⟩

def count (ok : Bool) (tally : Tally) : Tally := ⟨tally.executed + 1, tally.ok + ok.toNat⟩

def merge (tally other : Tally) : Tally :=
  ⟨tally.executed + other.executed, tally.ok + other.ok⟩

end Tally

/-- A tally for each operation, at its index. -/
structure Tallies where
  entries : Vector Tally Operation.all.length

namespace Tallies

def zero : Tallies := ⟨.replicate _ .zero⟩

def of (tallies : Tallies) (operation : Operation) : Tally :=
  tallies.entries[operation.position]

def count (operation : Operation) (ok : Bool) (tallies : Tallies) : Tallies :=
  ⟨tallies.entries.set operation.position ((tallies.of operation).count ok)⟩

def merge (tallies other : Tallies) : Tallies :=
  ⟨tallies.entries.zipWith Tally.merge other.entries⟩

def executed (tallies : Tallies) : Nat :=
  tallies.entries.foldl (fun executed tally => executed + tally.executed) 0

def ok (tallies : Tallies) : Nat := tallies.entries.foldl (fun ok tally => ok + tally.ok) 0

@[simp] theorem of_zero (operation : Operation) : zero.of operation = .zero := by
  cases operation <;> rfl

theorem of_count (operation other : Operation) (ok : Bool) (tallies : Tallies) :
    (tallies.count operation ok).of other =
      if other = operation then (tallies.of operation).count ok else tallies.of other := by
  by_cases same : other = operation
  · subst same
    simp [of, count]
  · have apart : operation.index ≠ other.index := fun equal =>
      same (Operation.position_injective (Fin.ext equal)).symm
    simp [of, count, Operation.position, same, apart]

@[simp] theorem of_merge (tallies other : Tallies) (operation : Operation) :
    (tallies.merge other).of operation = (tallies.of operation).merge (other.of operation) := by
  simp [of, merge]

theorem toList_entries (tallies : Tallies) :
    tallies.entries.toList = Operation.all.map tallies.of := by
  apply List.ext_getElem
  · simp
  · intro index within bound
    have place : (Operation.all.get ⟨index, by simpa using bound⟩).position =
        ⟨index, by simpa using bound⟩ := Operation.position_get _
    simp only [List.get_eq_getElem] at place
    simp [of, place]

end Tallies

/-! ## Measurements -/

structure Measurement where
  tallies : Tallies
  latency? : Option Histogram

namespace Measurement

def blank (latency : Bool) : Measurement := ⟨.zero, if latency then some .empty else none⟩

def record (operation : Operation) (ok : Bool) (elapsed : Nat) (measurement : Measurement) :
    Measurement where
  tallies := measurement.tallies.count operation ok
  latency? := measurement.latency?.map fun histogram => histogram.record elapsed

def ofOutcomes (latency : Bool) (outcomes : List (Outcome × Nat)) : Measurement :=
  outcomes.foldl (fun measurement (outcome, elapsed) =>
    measurement.record outcome.operation outcome.status.isOk elapsed) (blank latency)

def mergeLatency : Option Histogram → Option Histogram → Option Histogram
  | some histogram, some other => some (histogram.merge other)
  | histogram?, _ => histogram?

def merge (measurement other : Measurement) : Measurement where
  tallies := measurement.tallies.merge other.tallies
  latency? := mergeLatency measurement.latency? other.latency?

def total (latency : Bool) (measurements : List Measurement) : Measurement :=
  measurements.foldl merge (blank latency)

end Measurement
end StoreBench
