import StoreBench.Benchmark.Machine
import StoreBench.Proofs.Drawing.Choices

namespace StoreBench

/-! A run on a machine does what a run does that is only computed. In every lawful monad, its
transactions, its calls and its crashes are the same; all that the machine adds are the times. -/

variable {m : Type → Type} [Monad m] [LawfulMonad m]

/-! ## Endings -/

namespace Machine

/-- Whatever effects a program has, it ends with the given value or crash. -/
def Ends {α : Type} (machine : Machine m) (program : m α) (ending : Except Crash α) : Prop :=
  ∃ effects : m Unit, program = effects *> machine.orCrash ending

variable {machine : Machine m} {α β : Type}

theorem ends_pure (value : α) : machine.Ends (pure value) (.ok value) :=
  ⟨pure (), by simp [orCrash]⟩

theorem ends_crash (reason : Crash) :
    machine.Ends (α := α) (machine.crash reason) (.error reason) :=
  ⟨pure (), by simp [orCrash]⟩

theorem Ends.after {start : m α} {next : α → m β} {ending : Except Crash β}
    (ends : ∀ value, machine.Ends (next value) ending) : machine.Ends (start >>= next) ending := by
  rcases Classical.skolem.mp ends with ⟨effects, same⟩
  obtain rfl : next = fun value => effects value *> machine.orCrash ending := funext same
  exact ⟨start >>= effects, by simp [seqRight_eq_bind]⟩

theorem Ends.crash_bind {program : m α} {reason : Crash}
    (ends : machine.Ends program (.error reason)) (next : α → m β) :
    machine.Ends (program >>= next) (.error reason) := by
  rcases ends with ⟨effects, rfl⟩
  exact ⟨effects, by simp [orCrash, machine.crash_bind, seqRight_eq_bind]⟩

theorem Ends.ok_bind {program : m α} {value : α} {next : α → m β} {ending : Except Crash β}
    (ends : machine.Ends program (.ok value)) (nextEnds : machine.Ends (next value) ending) :
    machine.Ends (program >>= next) ending := by
  rcases ends with ⟨effects, rfl⟩
  simp only [orCrash, seqRight_eq_bind, bind_assoc, pure_bind]
  exact .after fun _ => nextEnds

end Machine

/-! ## Workers -/

variable {σ S H : Type} [WordSource σ] [Backend S H] (machine : Machine m) {phase : Phase}

def Machine.note (store : S) (measurement : Measurement) (outcome : Outcome) : m Measurement := do
  let before ← machine.now
  let after ← machine.now
  machine.log (Phase.callLog store outcome.calls)
  return measurement.record outcome.operation outcome.status.isOk (after - before)

def Machine.measure (store : S) (latency : Bool) (outcomes : List Outcome) : m Measurement :=
  outcomes.foldlM (machine.note store) (.blank latency)

namespace Phase

variable (store : S) {count : Nat} {session : Session σ H} {world last : World S}
variable {measurement : Measurement} {reason : Crash}

theorem workBy_performOn {outcomes : List Outcome}
    (worked : phase.work count session world = .ok (outcomes, last)) :
    workBy (phase.performOn machine store) count measurement session world = do
      let measurement ← outcomes.foldlM (machine.note store) measurement
      return (measurement, last) := by
  induction count generalizing session world outcomes measurement with
  | zero =>
      cases worked
      simp [workBy]
  | succ count induction =>
      rw [work_succ] at worked
      rcases bind_eq_ok_iff.mp worked with ⟨⟨outcome, next, middle⟩, performed, worked⟩
      rcases bind_eq_ok_iff.mp worked with ⟨⟨others, _⟩, rest, worked⟩
      cases worked
      simp [workBy, performOn, performed, Machine.orCrash, Machine.note, induction rest]

theorem workBy_performOn_crash (crashed : phase.work count session world = .error reason) :
    machine.Ends (workBy (phase.performOn machine store) count measurement session world)
      (.error reason) := by
  induction count generalizing session world measurement with
  | zero => cases crashed
  | succ count induction =>
      rw [work_succ] at crashed
      rcases bind_eq_error_iff.mp crashed with
        performed | ⟨⟨outcome, next, middle⟩, performed, crashed⟩
      · simp only [workBy, performOn, performed, bind_assoc]
        exact .after fun _ => (Machine.ends_crash reason).crash_bind _
      · rcases bind_eq_error_iff.mp crashed with failed | ⟨_, _, impossible⟩
        · simp only [workBy, performOn, performed, Machine.orCrash, bind_assoc, pure_bind]
          exact .after fun _ => .after fun _ => .after fun _ => induction failed
        · cases impossible

theorem workAllBy_performOn {sessions : List (Session σ H)} {work : List (List Outcome)}
    {latency : Bool} (worked : phase.workAll count sessions world = .ok (work, last)) :
    workAllBy (workBy (phase.performOn machine store) count (.blank latency)) sessions world = do
      let measurements ← work.mapM (machine.measure store latency)
      return (measurements, last) := by
  induction sessions generalizing world work with
  | nil =>
      cases worked
      simp [workAllBy]
  | cons session rest induction =>
      rcases bind_eq_ok_iff.mp worked with ⟨⟨outcomes, middle⟩, first, worked⟩
      rcases bind_eq_ok_iff.mp worked with ⟨⟨others, _⟩, later, worked⟩
      cases worked
      simp [workAllBy, workBy_performOn machine store first, induction later, Machine.measure]

theorem workAllBy_performOn_crash {sessions : List (Session σ H)} {latency : Bool}
    (crashed : phase.workAll count sessions world = .error reason) :
    machine.Ends
      (workAllBy (workBy (phase.performOn machine store) count (.blank latency)) sessions world)
      (.error reason) := by
  induction sessions generalizing world with
  | nil => cases crashed
  | cons session rest induction =>
      rw [workAllBy]
      rcases bind_eq_error_iff.mp crashed with failed | ⟨⟨outcomes, middle⟩, first, crashed⟩
      · exact (workBy_performOn_crash machine store failed).crash_bind _
      · rcases bind_eq_error_iff.mp crashed with failed | ⟨_, _, impossible⟩
        · rw [workBy_performOn machine store first, bind_assoc]
          apply Machine.Ends.after
          intro measurement
          rw [pure_bind]
          exact (induction failed).crash_bind _
        · cases impossible

end Phase

/-! ## Runs -/

namespace Run

variable {entropy : UInt64} {total : Nat} {run : Run S} {world : World S} {reason : Crash}

/-- On a machine, a phase performs the transactions of the phase that is computed. Its report is
made of what was measured of them, and of the time that has passed. -/
theorem phaseOn_of_run {work : List (List Outcome)}
    (ran : phase.run run.benchmark.threads total (sources run.benchmark entropy phase) run.world =
      .ok (work, world)) :
    run.phaseOn machine entropy (phase, total) = do
      machine.log (phase.opening run.benchmark.threads total)
      machine.log (Phase.callLog run.world.store (List.replicate run.benchmark.threads .start))
      let before ← machine.now
      let measurements ← work.mapM (machine.measure run.world.store run.benchmark.latency)
      let after ← machine.now
      machine.log (Phase.callLog run.world.store (List.replicate run.benchmark.threads .cleanup))
      let report := Report.ofMeasurements phase run.storeName run.benchmark total (after - before)
        measurements
      machine.print (report.lines run.benchmark.verbosity)
      return { run with world } := by
  rcases bind_eq_ok_iff.mp ran with ⟨_, room, worked⟩
  simp [phaseOn, room, Machine.orCrash, Phase.workAllBy_performOn machine run.world.store worked]

theorem phaseOn_of_run_crash
    (crashed : phase.run run.benchmark.threads total (sources run.benchmark entropy phase)
      run.world = .error reason) :
    machine.Ends (run.phaseOn machine entropy (phase, total)) (.error reason) := by
  apply Machine.Ends.after
  intro _
  rcases bind_eq_error_iff.mp crashed with narrow | ⟨_, room, crashed⟩
  · rw [narrow]
    exact (Machine.ends_crash reason).crash_bind _
  · simp only [room, Machine.orCrash, pure_bind]
    exact .after fun _ => .after fun _ =>
      (Phase.workAllBy_performOn_crash machine run.world.store crashed).crash_bind _

/-- A phase leaves the same behind on a machine as where it is computed, with any clock. -/
theorem phaseOn_ends (clock : Clock) :
    machine.Ends (run.phaseOn machine entropy (phase, total))
      ((run.runPhase clock entropy phase total).map Prod.snd) := by
  cases ran : phase.run run.benchmark.threads total (sources run.benchmark entropy phase)
    run.world with
  | error reason =>
      simp only [runPhase, ran]
      exact phaseOn_of_run_crash machine ran
  | ok done =>
      simp only [runPhase, ran]
      rw [phaseOn_of_run machine ran]
      exact .after fun _ => .after fun _ => .after fun _ => .after fun _ => .after fun _ =>
        .after fun _ => .after fun _ => Machine.ends_pure _

theorem foldlM_phaseOn_ends (clock : Clock) (phases : List (Phase × Nat)) :
    machine.Ends (phases.foldlM (phaseOn machine entropy) run)
      (run.attempt clock entropy phases).ending := by
  induction phases generalizing clock run with
  | nil => exact Machine.ends_pure run
  | cons scheduled rest induction =>
      rcases scheduled with ⟨phase, total⟩
      have first : machine.Ends (run.phaseOn machine entropy (phase, total)) _ :=
        phaseOn_ends machine clock
      rw [List.foldlM_cons, attempt]
      cases ran : run.runPhase clock entropy phase total with
      | error reason =>
          rw [ran] at first
          exact first.crash_bind _
      | ok done =>
          rcases done with ⟨result, middle⟩
          rw [ran] at first
          exact first.ok_bind (induction (clock.afterPhase middle.benchmark.threads))

/-- So does a whole benchmark. -/
theorem benchOn_ends (clock : Clock) :
    machine.Ends (run.benchOn machine entropy) ((run.bench clock entropy).map Prod.snd) := by
  have ends : machine.Ends (run.benchOn machine entropy)
      (run.attempt clock entropy run.schedule).ending :=
    foldlM_phaseOn_ends machine clock run.schedule
  rw [bench, runPhases]
  cases ended : (run.attempt clock entropy run.schedule).ending with
  | error reason => rwa [ended] at ends
  | ok last => rwa [ended] at ends

end Run
end StoreBench
