import StoreBench.Benchmark.Run

namespace StoreBench

/-! Phases on a machine. The loops are those of a phase that is only computed, but here every
transaction is timed, and logs and reports are written while the run goes on. The workers take
turns, so their calls never overlap. -/

structure Machine (m : Type → Type) [Monad m] where
  /-- The reading of a clock, in nanoseconds. -/
  now : m Nat
  log : List LogLine → m Unit
  print : List String → m Unit
  crash {α : Type} : Crash → m α
  /-- Nothing comes after a crash. -/
  crash_bind {α β : Type} (reason : Crash) (next : α → m β) :
    crash reason >>= next = crash reason

variable {m : Type → Type} [Monad m] {σ S H : Type} [WordSource σ] [Backend S H]

@[inline] def Machine.orCrash {α : Type} (machine : Machine m) : Except Crash α → m α
  | .ok value => return value
  | .error reason => machine.crash reason

@[specialize] def Phase.performOn (machine : Machine m) (phase : Phase) (store : S)
    (measurement : Measurement) (session : Session σ H) (world : World S) :
    m (Measurement × Session σ H × World S) := do
  let before ← machine.now
  let (outcome, session, world) ← machine.orCrash (session.perform phase.drawing world)
  let after ← machine.now
  machine.log (callLog store outcome.calls)
  return (measurement.record outcome.operation outcome.status.isOk (after - before), session, world)

namespace Run

@[specialize] def phaseOn (machine : Machine m) (entropy : UInt64) (run : Run S)
    (scheduled : Phase × Nat) : m (Run S) := do
  let (phase, total) := scheduled
  let { threads, latency, .. } := run.benchmark
  machine.log (phase.opening threads total)
  machine.orCrash (Phase.checkRoom threads)
  machine.log (Phase.callLog run.world.store (List.replicate threads .start))
  let before ← machine.now
  let (measurements, world) ← Phase.workAllBy
    (Phase.workBy (phase.performOn machine run.world.store) (total / threads) (.blank latency))
    (Phase.sessions threads (sources run.benchmark entropy phase) run.world) run.world
  let after ← machine.now
  machine.log (Phase.callLog run.world.store (List.replicate threads .cleanup))
  let report := Report.ofMeasurements phase run.storeName run.benchmark total (after - before)
    measurements
  machine.print (report.lines run.benchmark.verbosity)
  return { run with world }

def benchOn (machine : Machine m) (entropy : UInt64) (run : Run S) : m (Run S) :=
  run.schedule.foldlM (phaseOn machine entropy) run

end Run
end StoreBench
