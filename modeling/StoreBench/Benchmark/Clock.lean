import StoreBench.Cycle
import StoreBench.Session

namespace StoreBench

/-! How much time passes, in nanoseconds. Time passes in two places: while a store
answers a call, and while a phase waits for a worker to finish. Every worker has a clock
of its own, which starts at zero in each phase. Clocks are words of 64 bits: one that
runs over goes on from zero, and no time counts as passed if it reads less than before. -/

/-- The times that pass, each list gone through again and again. Without times, no
time passes. -/
structure Clock where
  callTimes : List Nat
  joinTimes : List Nat
  reading : UInt64 := 0

namespace Clock

def still : Clock := ⟨[], [], 0⟩

def callTime (clock : Clock) (position : Nat) : Nat :=
  (cyclic? clock.callTimes position).getD 0

def joinTime (clock : Clock) (worker : Nat) : Nat :=
  (cyclic? clock.joinTimes worker).getD 0

def advance (reading : UInt64) (times : List Nat) : UInt64 :=
  times.foldl (fun reading time => reading + UInt64.ofNat time) reading

def between (before after : UInt64) : Nat := after.toNat - before.toNat

/-- The latency of each operation of a worker, whose handle has answered calls up to
a position and whose clock reads a time. -/
def latenciesFrom (clock : Clock) : Nat → UInt64 → List Outcome → List Nat
  | _, _, [] => []
  | position, before, outcome :: rest =>
      let count := outcome.calls.length
      let after := advance before ((List.range' position count).map clock.callTime)
      between before after :: clock.latenciesFrom (position + count) after rest

def latencies (clock : Clock) (outcomes : List Outcome) : List Nat :=
  clock.latenciesFrom 0 0 outcomes

example :
    latencies ⟨[1, 10], [], 0⟩ [⟨.read, .ok, [.start]⟩, ⟨.read, .ok, [.start, .start]⟩] =
      [1, 11] := by
  decide

@[simp] theorem length_latenciesFrom (clock : Clock) (position : Nat) (before : UInt64)
    (outcomes : List Outcome) :
    (clock.latenciesFrom position before outcomes).length = outcomes.length := by
  induction outcomes generalizing position before with
  | nil => rfl
  | cons outcome rest induction => simp [latenciesFrom, induction]

def afterPhase (clock : Clock) (workers : Nat) : Clock :=
  { clock with reading := advance clock.reading ((List.range workers).map clock.joinTime) }

def duration (clock : Clock) (workers : Nat) : Nat :=
  between clock.reading (clock.afterPhase workers).reading

end Clock
end StoreBench
