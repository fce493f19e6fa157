import Mathlib.Data.Fintype.Basic
import Mathlib.Logic.Function.Basic
import StoreBench.Benchmark.Run
import StoreBench.Proofs.Drawing.Transactions

namespace StoreBench

/-! Workers side by side. All workers share the workload and the store; each goes through
its own transactions, and each transaction through three kinds of steps: it is drawn, its
calls are answered one at a time, and its outcome is settled. Any worker may make the next
step, so the runs below are all interleavings of these steps. A worker whose drawing
crashes makes no more steps. -/

inductive Activity where
  | ready
  /-- Calls are being answered. The given ones still come before the deciding call. -/
  | asking (phase : Phase) (transaction : Transaction) (earlier : List Request)
  /-- The deciding call is answered, and its outcome waits to be settled. -/
  | answered (phase : Phase) (transaction : Transaction) (status : Status)

structure Worker (σ H : Type) where
  session : Session σ H
  ahead : List Phase
  activity : Activity

def Worker.isDone {σ H : Type} (worker : Worker σ H) : Bool :=
  match worker.ahead, worker.activity with
  | [], .ready => true
  | _, _ => false

theorem Worker.isDone_iff {σ H : Type} {worker : Worker σ H} :
    worker.isDone ↔ worker.ahead = [] ∧ worker.activity = .ready := by
  rcases worker with ⟨session, ahead, activity⟩
  cases ahead <;> cases activity <;> simp [isDone]

structure Crew (ι σ S H : Type) where
  world : World S
  worker : ι → Worker σ H

inductive Event (ι : Type) where
  | drew (worker : ι) (phase : Phase) (transaction : Transaction)
  | asked (worker : ι) (phase : Phase) (transaction : Transaction) (request : Request)
      (answer : Answer)
  | settled (worker : ι) (phase : Phase) (transaction : Transaction) (status : Status)

def Event.phase {ι : Type} : Event ι → Phase
  | .drew _ phase _ | .asked _ phase _ _ _ | .settled _ phase _ _ => phase

def Event.worker {ι : Type} : Event ι → ι
  | .drew name _ _ | .asked name _ _ _ _ | .settled name _ _ _ => name

namespace Crew

variable {ι σ S H : Type} [DecidableEq ι]

def move (crew : Crew ι σ S H) (name : ι) (worker : Worker σ H) (world : World S) :
    Crew ι σ S H :=
  ⟨world, Function.update crew.worker name worker⟩

@[simp] theorem move_world (crew : Crew ι σ S H) (name : ι) (worker : Worker σ H)
    (world : World S) : (crew.move name worker world).world = world := rfl

@[simp] theorem move_worker_same (crew : Crew ι σ S H) (name : ι) (worker : Worker σ H)
    (world : World S) : (crew.move name worker world).worker name = worker := by
  simp [move]

theorem move_worker_other (crew : Crew ι σ S H) {name other : ι} (worker : Worker σ H)
    (world : World S) (different : other ≠ name) :
    (crew.move name worker world).worker other = crew.worker other := by
  simp [move, different]

theorem forall_move (property : ι → Worker σ H → Prop) {crew : Crew ι σ S H} {name : ι}
    {worker : Worker σ H} {world : World S} (moved : property name worker)
    (others : ∀ other, other ≠ name → property other (crew.worker other)) (other : ι) :
    property other ((crew.move name worker world).worker other) := by
  by_cases same : other = name
  · subst same
    simpa using moved
  · rw [move_worker_other crew worker world same]
    exact others other same

end Crew

/-! ## Steps -/

variable {ι σ S H : Type} [DecidableEq ι] [WordSource σ] [Backend S H]

inductive Step (crew : Crew ι σ S H) : Event ι → Crew ι σ S H → Prop where
  | draw {name : ι} {phase : Phase} {ahead : List Phase} {session after : Session σ H}
      {transaction : Transaction} {world : World S}
      (ready : crew.worker name = ⟨session, phase :: ahead, .ready⟩)
      (drawn : session.draw phase.drawing crew.world = .ok (transaction, after, world)) :
      Step crew (.drew name phase transaction)
        (crew.move name ⟨after, ahead, .asking phase transaction transaction.earlier⟩ world)
  | askEarlier {name : ι} {phase : Phase} {ahead : List Phase} {session after : Session σ H}
      {transaction : Transaction} {request : Request} {rest : List Request} {answer : Answer}
      {world : World S}
      (asking : crew.worker name = ⟨session, ahead, .asking phase transaction (request :: rest)⟩)
      (answered : session.ask request crew.world = (answer, after, world)) :
      Step crew (.asked name phase transaction request answer)
        (crew.move name ⟨after, ahead, .asking phase transaction rest⟩ world)
  | askDeciding {name : ι} {phase : Phase} {ahead : List Phase} {session after : Session σ H}
      {transaction : Transaction} {answer : Answer} {world : World S}
      (asking : crew.worker name = ⟨session, ahead, .asking phase transaction []⟩)
      (answered : session.ask transaction.deciding crew.world = (answer, after, world)) :
      Step crew (.asked name phase transaction transaction.deciding answer)
        (crew.move name ⟨after, ahead, .answered phase transaction answer.status⟩ world)
  | settle {name : ι} {phase : Phase} {ahead : List Phase} {session : Session σ H}
      {transaction : Transaction} {status : Status} {workload : Workload}
      (answered : crew.worker name = ⟨session, ahead, .answered phase transaction status⟩)
      (settled : crew.world.workload.settle transaction status = .ok workload) :
      Step crew (.settled name phase transaction status)
        (crew.move name ⟨session, ahead, .ready⟩ { crew.world with workload })

theorem Step.worker_of_other {crew next : Crew ι σ S H} {event : Event ι} {name : ι}
    (step : Step crew event next) (different : event.worker ≠ name) :
    next.worker name = crew.worker name := by
  cases step <;> exact Crew.move_worker_other _ _ _ (Ne.symm different)

theorem Step.asking_of_draw {crew next : Crew ι σ S H} {name : ι} {phase : Phase}
    {transaction : Transaction} (step : Step crew (.drew name phase transaction) next) :
    (next.worker name).activity = .asking phase transaction transaction.earlier := by
  cases step with
  | draw ready drawn => rw [Crew.move_worker_same]

inductive Interleaving (first : Crew ι σ S H) : List (Event ι) → Crew ι σ S H → Prop where
  | start : Interleaving first [] first
  | step {history : List (Event ι)} {event : Event ι} {middle last : Crew ι σ S H}
      (earlier : Interleaving first history middle) (next : Step middle event last) :
      Interleaving first (history ++ [event]) last

/-! ## Schedules

A run is decided by the order in which workers move, so runs can be computed. -/

namespace Crew

/-- The next step of a worker, unless it is done or its drawing or settling crashes. -/
def advance (crew : Crew ι σ S H) (name : ι) : Option (Event ι × Crew ι σ S H) :=
  match crew.worker name with
  | ⟨session, phase :: ahead, .ready⟩ =>
      (session.draw phase.drawing crew.world).toOption.map fun (transaction, after, world) =>
        (.drew name phase transaction,
          crew.move name ⟨after, ahead, .asking phase transaction transaction.earlier⟩ world)
  | ⟨_, [], .ready⟩ => none
  | ⟨session, ahead, .asking phase transaction (request :: rest)⟩ =>
      let (answer, after, world) := session.ask request crew.world
      some (.asked name phase transaction request answer,
        crew.move name ⟨after, ahead, .asking phase transaction rest⟩ world)
  | ⟨session, ahead, .asking phase transaction []⟩ =>
      let (answer, after, world) := session.ask transaction.deciding crew.world
      some (.asked name phase transaction transaction.deciding answer,
        crew.move name ⟨after, ahead, .answered phase transaction answer.status⟩ world)
  | ⟨session, ahead, .answered phase transaction status⟩ =>
      (crew.world.workload.settle transaction status).toOption.map fun workload =>
        (.settled name phase transaction status,
          crew.move name ⟨session, ahead, .ready⟩ { crew.world with workload })

def follow : List ι → Crew ι σ S H → Option (List (Event ι) × Crew ι σ S H)
  | [], crew => some ([], crew)
  | name :: rest, crew =>
      (crew.advance name).bind fun (event, next) =>
        (follow rest next).map fun (history, last) => (event :: history, last)

end Crew

theorem step_iff_advance {crew next : Crew ι σ S H} {event : Event ι} :
    Step crew event next ↔ ∃ name, crew.advance name = some (event, next) := by
  constructor
  · intro step
    cases step with
    | @draw name _ _ _ _ _ _ ready drawn =>
        exact ⟨name, by simp [Crew.advance, ready, drawn, Except.toOption]⟩
    | @askEarlier name _ _ _ _ _ _ _ _ _ asking answered =>
        exact ⟨name, by simp [Crew.advance, asking, answered]⟩
    | @askDeciding name _ _ _ _ _ _ _ asking answered =>
        exact ⟨name, by simp [Crew.advance, asking, answered]⟩
    | @settle name _ _ _ _ _ _ answered settled =>
        exact ⟨name, by simp [Crew.advance, answered, settled, Except.toOption]⟩
  · intro moved
    rcases moved with ⟨name, advanced⟩
    unfold Crew.advance at advanced
    split at advanced
    · rcases Option.map_eq_some_iff.mp advanced with ⟨_, drawn, equal⟩
      cases equal
      exact .draw ‹_› (toOption_eq_some_iff.mp drawn)
    · cases advanced
    · cases advanced
      exact .askEarlier ‹_› rfl
    · cases advanced
      exact .askDeciding ‹_› rfl
    · rcases Option.map_eq_some_iff.mp advanced with ⟨_, settled, equal⟩
      cases equal
      exact .settle ‹_› (toOption_eq_some_iff.mp settled)

theorem Crew.follow_concat {names : List ι} {name : ι} {crew middle last : Crew ι σ S H}
    {history : List (Event ι)} {event : Event ι}
    (followed : crew.follow names = some (history, middle))
    (advanced : middle.advance name = some (event, last)) :
    crew.follow (names ++ [name]) = some (history ++ [event], last) := by
  induction names generalizing crew history with
  | nil =>
      cases followed
      simp [follow, advanced]
  | cons other rest induction =>
      rcases Option.bind_eq_some_iff.mp followed with ⟨⟨first, next⟩, moved, followed⟩
      rcases Option.map_eq_some_iff.mp followed with ⟨⟨later, _⟩, followed, equal⟩
      cases equal
      simp [follow, moved, induction followed]

theorem Interleaving.of_follow {names : List ι} {crew : Crew ι σ S H}
    {first last : Crew ι σ S H} {past history : List (Event ι)}
    (earlier : Interleaving first past crew)
    (followed : crew.follow names = some (history, last)) :
    Interleaving first (past ++ history) last := by
  induction names generalizing crew past history with
  | nil =>
      cases followed
      rwa [List.append_nil]
  | cons name rest induction =>
      rcases Option.bind_eq_some_iff.mp followed with ⟨⟨event, next⟩, advanced, followed⟩
      rcases Option.map_eq_some_iff.mp followed with ⟨⟨later, _⟩, followed, equal⟩
      cases equal
      have step := step_iff_advance.mpr ⟨name, advanced⟩
      simpa using induction (earlier.step step) followed

theorem interleaving_iff_follow {first last : Crew ι σ S H} {history : List (Event ι)} :
    Interleaving first history last ↔ ∃ names, first.follow names = some (history, last) := by
  constructor
  · intro run
    induction run with
    | start => exact ⟨[], rfl⟩
    | step earlier next induction =>
        rcases induction with ⟨names, followed⟩
        rcases step_iff_advance.mp next with ⟨name, advanced⟩
        exact ⟨names ++ [name], Crew.follow_concat followed advanced⟩
  · intro follows
    rcases follows with ⟨names, followed⟩
    exact Interleaving.start.of_follow followed

namespace Crew

def Finished (crew : Crew ι σ S H) : Prop := ∀ name, (crew.worker name).isDone

instance [Fintype ι] (crew : Crew ι σ S H) : Decidable crew.Finished :=
  inferInstanceAs (Decidable (∀ name, (crew.worker name).isDone))

def opened (phase : Phase) (threads total : Nat) (sources : Nat → σ) (world : World S) :
    Crew (Fin threads) σ S H where
  world
  worker name := ⟨Session.start (sources name) world, List.replicate (total / threads) phase,
    .ready⟩

end Crew

/-- A point in a run of several phases, one after the other: some phase is under way, and
all workers of the phases before it are done. -/
inductive Underway (threads : Nat) (sources : Phase → Nat → σ) :
    World S → List (Phase × Nat) → Phase → List (Event (Fin threads)) →
    Crew (Fin threads) σ S H → Prop where
  | current {world : World S} {phase : Phase} {total : Nat} {later : List (Phase × Nat)}
      {history : List (Event (Fin threads))} {crew : Crew (Fin threads) σ S H}
      (run : Interleaving (Crew.opened phase threads total (sources phase) world) history crew) :
      Underway threads sources world ((phase, total) :: later) phase history crew
  | later {world : World S} {phase current : Phase} {total : Nat}
      {rest : List (Phase × Nat)} {history past : List (Event (Fin threads))}
      {crew done : Crew (Fin threads) σ S H}
      (run : Interleaving (Crew.opened phase threads total (sources phase) world) past done)
      (finished : done.Finished)
      (next : Underway threads sources done.world rest current history crew) :
      Underway threads sources world ((phase, total) :: rest) current history crew

end StoreBench
