import StoreBench.Benchmark.Clock
import StoreBench.Benchmark.Report

namespace StoreBench

/-! A run of a benchmark: its phases, one after the other, on one workload and one
store. -/

structure Run (S : Type) where
  storeName : String
  benchmark : Benchmark
  world : World S

structure PhaseResult where
  report : Report
  calls : List (List Call)
  log : List LogLine

structure Attempt (S : Type) where
  results : List PhaseResult := []
  /-- What a phase wrote to the log before it crashed. -/
  unfinished : List LogLine := []
  ending : Except Crash (Run S)

namespace Attempt

variable {S : Type}

def log (attempt : Attempt S) : List LogLine :=
  attempt.results.flatMap PhaseResult.log ++ attempt.unfinished

def after (result : PhaseResult) (attempt : Attempt S) : Attempt S :=
  { attempt with results := result :: attempt.results }

end Attempt

namespace Run

variable {S H : Type} [Backend S H]

/-- The random words of the workers of a phase. Without a seed they come from the
given entropy. -/
def sources (benchmark : Benchmark) (entropy : UInt64) (phase : Phase) (worker : Nat) : Xoshiro :=
  Xoshiro.ofSeed (phase.seed (benchmark.seed?.getD entropy) worker)

def runPhase (clock : Clock) (entropy : UInt64) (run : Run S) (phase : Phase) (total : Nat) :
    Except Crash (PhaseResult × Run S) := do
  let threads := run.benchmark.threads
  let (work, world) ← phase.run threads total (sources run.benchmark entropy phase) run.world
  let measurements := work.map fun outcomes =>
    Measurement.ofOutcomes run.benchmark.latency (outcomes.zip (clock.latencies outcomes))
  let report := Report.ofMeasurements phase run.storeName run.benchmark total
    (clock.duration threads) measurements
  let log := phase.opening threads total ++ Phase.storeLog run.world.store work
  return (⟨report, work.map Phase.calls, log⟩, { run with world })

def attempt (clock : Clock) (entropy : UInt64) : List (Phase × Nat) → Run S → Attempt S
  | [], run => { ending := .ok run }
  | (phase, total) :: rest, run =>
      match run.runPhase clock entropy phase total with
      | .error crash =>
          { unfinished := phase.opening run.benchmark.threads total, ending := .error crash }
      | .ok (result, run) =>
          let clock := clock.afterPhase run.benchmark.threads
          .after result (attempt clock entropy rest run)

def runPhases (clock : Clock) (entropy : UInt64) (phases : List (Phase × Nat)) (run : Run S) :
    Except Crash (List PhaseResult × Run S) :=
  let attempt := run.attempt clock entropy phases
  attempt.ending.map fun run => (attempt.results, run)

def schedule (run : Run S) : List (Phase × Nat) :=
  let plan := run.world.workload.toPlan
  (if run.benchmark.skipLoad then [] else [(.load, plan.recordCount.toNat)]) ++
    [(.transactions, plan.transactionCount.toNat)]

def bench (clock : Clock) (entropy : UInt64) (run : Run S) :
    Except Crash (List PhaseResult × Run S) :=
  run.runPhases clock entropy run.schedule

def pins (benchmark : Benchmark) (phases : Nat) : List (Nat × Nat) :=
  if benchmark.pin then
    (List.range benchmark.threads).flatMap fun worker => List.replicate phases (worker, worker)
  else []

def callsByWorker : List PhaseResult → List (List Call)
  | [] => []
  | [result] => result.calls
  | result :: rest => List.zipWith (· ++ ·) result.calls (callsByWorker rest)

end Run
end StoreBench
