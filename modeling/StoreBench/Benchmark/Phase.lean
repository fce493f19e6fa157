import StoreBench.Benchmark.Options
import StoreBench.Log.Line
import StoreBench.Random.Xoshiro
import StoreBench.Session

namespace StoreBench

/-! The two phases of a benchmark. Each is split evenly over its workers; what does
not divide is dropped. All workers open their sessions before any of them starts to
work. -/

inductive Phase where
  | load
  | transactions
  deriving DecidableEq, Repr

namespace Phase

def name : Phase → String
  | .load => "load"
  | .transactions => "run"

def number : Phase → UInt64
  | .load => 0
  | .transactions => 1

def seed (seed : UInt64) (phase : Phase) (worker : Nat) : UInt64 :=
  seed + (phase.number <<< 32) + UInt64.ofNat worker

example : seed 5 .transactions 2 = 4294967303 := by decide

def drawing {σ : Type} [WordSource σ] : Phase → Drawing σ Transaction
  | .load => Workload.nextLoad
  | .transactions => Workload.nextTransaction

/-! ## Workers

The loops are written once for all monads. Where transactions are only computed, the monad is
`Except Crash`; on a machine they are timed as well, and told to a log. -/

section Loops

variable {σ S H κ : Type} {m : Type → Type} [Monad m]

/-- A number of transactions, one after the other. What is known after each of them is handed to
the next one. -/
@[specialize] def workBy (perform : κ → Session σ H → World S → m (κ × Session σ H × World S)) :
    Nat → κ → Session σ H → World S → m (κ × World S)
  | 0, known, _, world => return (known, world)
  | count + 1, known, session, world => do
      let (known, session, world) ← perform known session world
      workBy perform count known session world

@[specialize] def workAllBy (work : Session σ H → World S → m (κ × World S)) :
    List (Session σ H) → World S → m (List κ × World S)
  | [], world => return ([], world)
  | session :: rest, world => do
      let (known, world) ← work session world
      let (others, world) ← workAllBy work rest world
      return (known :: others, world)

end Loops

variable {σ S H : Type} [WordSource σ] [Backend S H]

def collect (phase : Phase) (outcomes : Array Outcome) (session : Session σ H) (world : World S) :
    Except Crash (Array Outcome × Session σ H × World S) := do
  let (outcome, session, world) ← session.perform phase.drawing world
  return (outcomes.push outcome, session, world)

def work (phase : Phase) (count : Nat) (session : Session σ H) (world : World S) :
    Except Crash (List Outcome × World S) := do
  let (outcomes, world) ← workBy phase.collect count #[] session world
  return (outcomes.toList, world)

def workAll (phase : Phase) (count : Nat) :
    List (Session σ H) → World S → Except Crash (List (List Outcome) × World S) :=
  workAllBy (phase.work count)

theorem workBy_collect (phase : Phase) (count : Nat) (outcomes : Array Outcome)
    (session : Session σ H) (world : World S) :
    workBy phase.collect count outcomes session world =
      (workBy phase.collect count #[] session world).map fun (others, world) =>
        (outcomes ++ others, world) := by
  induction count generalizing outcomes session world with
  | zero => simp [workBy, pure, Except.pure, Except.map]
  | succ count induction =>
      simp only [workBy, collect]
      cases session.perform phase.drawing world with
      | error crash => rfl
      | ok result =>
          simp only [bind, Except.bind, pure, Except.pure, induction (outcomes.push _),
            induction (#[].push _)]
          cases workBy phase.collect count #[] result.2.1 result.2.2 <;> simp [Except.map]

theorem work_succ (phase : Phase) (count : Nat) (session : Session σ H) (world : World S) :
    phase.work (count + 1) session world = do
      let (outcome, session, world) ← session.perform phase.drawing world
      let (outcomes, world) ← phase.work count session world
      return (outcome :: outcomes, world) := by
  simp only [work, workBy, collect]
  cases session.perform phase.drawing world with
  | error crash => rfl
  | ok result =>
      simp only [bind, Except.bind, pure, Except.pure, workBy_collect phase count (#[].push _)]
      cases workBy phase.collect count #[] result.2.1 result.2.2 <;> simp [Except.map]

def sessions (threads : Nat) (sources : Nat → σ) (world : World S) : List (Session σ H) :=
  (List.range threads).map fun worker => Session.start (sources worker) world

/-- Whether there is room for all workers. One more thread waits for them, and a place of
eight bytes is set aside for each. -/
def checkRoom (threads : Nat) : Except Crash Unit := do
  let _ ← checkedAdd (.ofNat threads) 1
  checkCapacity 8 threads

def run (phase : Phase) (threads total : Nat) (sources : Nat → σ) (world : World S) :
    Except Crash (List (List Outcome) × World S) := do
  checkRoom threads
  phase.workAll (total / threads) (sessions threads sources world) world

def calls (outcomes : List Outcome) : List Call :=
  .start :: outcomes.flatMap Outcome.calls ++ [.cleanup]

/-! ## The log -/

def opening (phase : Phase) (threads total : Nat) : List LogLine :=
  let dropped := total % threads
  let warning := "phase " ++ phase.name ++ ": " ++ toString total ++
    " operations do not divide over " ++ toString threads ++ " threads, " ++
    toString dropped ++ " dropped"
  let start := "phase " ++ phase.name ++ " starts: " ++ toString threads ++ " threads, " ++
    toString (total / threads) ++ " operations each"
  (if dropped = 0 then [] else [⟨.warn, .harness, warning⟩]) ++ [⟨.info, .harness, start⟩]

def callLog (store : S) (calls : List Call) : List LogLine :=
  (calls.flatMap (Backend.log store)).map fun content => ⟨.info, .store, content⟩

def storeLog (store : S) (work : List (List Outcome)) : List LogLine :=
  let starts := work.map fun _ => Call.start
  let exchanges := work.flatMap fun outcomes => outcomes.flatMap Outcome.calls
  let ends := work.map fun _ => Call.cleanup
  callLog store (starts ++ exchanges ++ ends)

end Phase
end StoreBench
