import StoreBench.Proofs.Interleaving.History
import StoreBench.Proofs.Store.Records

namespace StoreBench

/-! Requests that find their records. In a store that keeps its records, a transaction that
is aimed at a record that is there stays so while other workers move, and an insert that has
succeeded leaves its record behind before its number is acknowledged. -/

def World.Holds (world : World Store) (number : UInt64) : Prop :=
  world.store.Has world.workload.table (world.workload.keyName number)

structure World.Grown (world later : World Store) : Prop where
  toPlan : later.workload.toPlan = world.workload.toPlan
  scanOutcome : later.store.scanOutcome = world.store.scanOutcome
  has : ∀ table key, world.store.Has table key → later.store.Has table key

/-- A transaction whose requests find their records, and whose number is the number in the
key of the record that it inserts. -/
structure Transaction.Supplied (world : World Store) (transaction : Transaction) : Prop where
  served : ∀ request ∈ transaction.requests, request.Served world.store.Has
  numbered : ∀ number, transaction.number? = some number → ∃ values, transaction.deciding =
    .insert world.workload.table (world.workload.keyName number) values

def Activity.Supplied (world : World Store) : Activity → Prop
  | .ready => True
  | .asking _ transaction earlier => transaction.Supplied world ∧ earlier ⊆ transaction.earlier
  | .answered _ transaction _ =>
      ∀ number, transaction.number? = some number → world.Holds number

/-- A store that keeps records, and workers that find theirs. -/
structure Crew.Stocked {ι σ : Type} (crew : Crew ι σ Store Unit) : Prop where
  keeping : crew.world.store.Keeping
  supplied : ∀ name, (crew.worker name).activity.Supplied crew.world

/-! ## Later worlds -/

namespace World

variable {world middle later : World Store}

theorem Grown.rfl : world.Grown world := ⟨Eq.refl _, Eq.refl _, fun _ _ => id⟩

theorem Grown.trans (first : world.Grown middle) (second : middle.Grown later) :
    world.Grown later where
  toPlan := second.toPlan.trans first.toPlan
  scanOutcome := second.scanOutcome.trans first.scanOutcome
  has table key held := second.has table key (first.has table key held)

theorem Grown.holds (grown : world.Grown later) {number : UInt64} (holds : world.Holds number) :
    later.Holds number := by
  unfold Holds
  rw [grown.toPlan]
  exact grown.has _ _ holds

theorem Grown.supplied {transaction : Transaction} (grown : world.Grown later)
    (supplied : transaction.Supplied world) : transaction.Supplied later where
  served request member := (supplied.served request member).mono grown.has
  numbered := by
    rw [grown.toPlan]
    exact supplied.numbered

theorem Grown.activity {activity : Activity} (grown : world.Grown later)
    (supplied : activity.Supplied world) : activity.Supplied later := by
  cases activity with
  | ready => trivial
  | asking phase transaction earlier => exact ⟨grown.supplied supplied.1, supplied.2⟩
  | answered phase transaction status =>
      exact fun number numbered => grown.holds (supplied number numbered)

end World

theorem World.grown_answer {world : World Store} {request : Request}
    (served : request.Served world.store.Has) :
    world.Grown { world with store := (world.store.answer request).2 } where
  toPlan := rfl
  scanOutcome := Store.scanOutcome_answer _ _
  has _ _ held := held.answer served

theorem World.grown_workload {world : World Store} {workload : Workload}
    (plan : workload.toPlan = world.workload.toPlan) : world.Grown { world with workload } where
  toPlan := plan
  scanOutcome := rfl
  has _ _ held := held

theorem Session.ask_store {σ : Type} {session after : Session σ Unit} {request : Request}
    {answer : Answer} {world later : World Store}
    (asked : session.ask request world = (answer, after, later)) :
    answer = (world.store.answer request).1 ∧
      later = { world with store := (world.store.answer request).2 } := by
  cases asked
  exact ⟨rfl, rfl⟩

/-! ## Transactions that are drawn -/

def World.Reached (world : World Store) : Prop :=
  ∀ number, number ≤ world.workload.frontier.last → world.Holds number

theorem Drawn.supplied {world : World Store} {after : Workload} {phase : Phase}
    {transaction : Transaction} (drawn : Drawn world.workload phase transaction after)
    (reached : phase = .load ∨ world.Reached) : transaction.Supplied world := by
  cases drawn with
  | load values same => exact ⟨by simp [Transaction.requests, Request.Served], by simp⟩
  | insert values same =>
      refine ⟨by simp [Transaction.requests, Request.Served], ?_⟩
      intro number inserted
      cases inserted
      exact ⟨values, rfl⟩
  | read number fields below same =>
      have holds := (reached.resolve_left (by simp)) number below
      exact ⟨by simpa [Transaction.requests, Request.Served, World.Holds] using holds, by simp⟩
  | update number values below same =>
      have holds := (reached.resolve_left (by simp)) number below
      exact ⟨by simpa [Transaction.requests, Request.Served, World.Holds] using holds, by simp⟩
  | scan number count fields below same =>
      have holds := (reached.resolve_left (by simp)) number below
      exact ⟨by simpa [Transaction.requests, Request.Served, World.Holds] using holds, by simp⟩
  | readModifyWrite number fields values below same =>
      have holds := (reached.resolve_left (by simp)) number below
      exact ⟨by simpa [Transaction.requests, Request.Served, World.Holds] using holds, by simp⟩

/-! ## Steps -/

variable {ι σ : Type} [DecidableEq ι] [WordSource σ]

namespace Step

variable {crew next : Crew ι σ Store Unit} {event : Event ι}

theorem served {name : ι} {phase : Phase} {transaction : Transaction} {request : Request}
    {answer : Answer} (step : Step crew (.asked name phase transaction request answer) next)
    (stocked : crew.Stocked) : request.Served crew.world.store.Has := by
  have supplied := stocked.supplied name
  cases step with
  | askEarlier asking answered =>
      rw [asking] at supplied
      exact supplied.1.served request
        (List.mem_append_left _ (supplied.2 (List.mem_cons_self ..)))
  | askDeciding asking answered =>
      rw [asking] at supplied
      exact supplied.1.served _ (List.mem_append_right _ (List.mem_singleton_self _))

theorem outcome {name : ι} {phase : Phase} {transaction : Transaction} {request : Request}
    {answer : Answer} (step : Step crew (.asked name phase transaction request answer) next)
    (stocked : crew.Stocked) : answer.status = crew.world.store.outcome request := by
  have served := step.served stocked
  cases step with
  | askEarlier asking answered | askDeciding asking answered =>
      rw [(Session.ask_store answered).1]
      exact Store.answer_status served

theorem grown (step : Step crew event next) (stocked : crew.Stocked) :
    crew.world.Grown next.world := by
  cases step with
  | draw ready drawn =>
      rcases Session.draw_eq_ok_iff.mp drawn with ⟨workload, source, made, rfl, rfl⟩
      exact World.grown_workload (Workload.drawing_drawn made).toPlan_eq
  | askEarlier asking answered =>
      have served := (Step.askEarlier asking answered).served stocked
      rw [Crew.move_world, (Session.ask_store answered).2]
      exact World.grown_answer served
  | askDeciding asking answered =>
      have served := (Step.askDeciding asking answered).served stocked
      rw [Crew.move_world, (Session.ask_store answered).2]
      exact World.grown_answer served
  | settle answered settled =>
      rcases Workload.settle_eq_ok_iff.mp settled with ⟨frontier, _, rfl⟩
      exact World.grown_workload rfl

theorem stocked (step : Step crew event next) (before : crew.Stocked)
    (reached : event.phase = .load ∨ crew.world.Reached) : next.Stocked := by
  have grown := step.grown before
  have others (other : ι) := grown.activity (before.supplied other)
  cases step with
  | draw ready drawn =>
      rcases Session.draw_eq_ok_iff.mp drawn with ⟨workload, source, made, rfl, rfl⟩
      have supplied := grown.supplied ((Workload.drawing_drawn made).supplied reached)
      refine ⟨before.keeping, ?_⟩
      exact Crew.forall_move (fun _ worker => worker.activity.Supplied _)
        ⟨supplied, List.Subset.refl _⟩ fun other _ => others other
  | @askEarlier name _ _ _ _ _ _ _ _ _ asking answered =>
      have supplied := others name
      rw [asking] at supplied
      rcases Session.ask_store answered with ⟨rfl, rfl⟩
      refine ⟨before.keeping.answer _, ?_⟩
      exact Crew.forall_move (fun _ worker => worker.activity.Supplied _)
        ⟨supplied.1, fun _ member => supplied.2 (List.mem_cons_of_mem _ member)⟩
        fun other _ => others other
  | @askDeciding name _ _ _ _ transaction _ _ asking answered =>
      have supplied := before.supplied name
      rw [asking] at supplied
      rcases Session.ask_store answered with ⟨rfl, rfl⟩
      refine ⟨before.keeping.answer _, ?_⟩
      refine Crew.forall_move (fun _ worker => worker.activity.Supplied _) ?_
        fun other _ => others other
      intro number numbered
      rcases supplied.1.numbered number numbered with ⟨values, deciding⟩
      rw [deciding]
      exact before.keeping.has_insert values
  | settle answered settled =>
      refine ⟨before.keeping, ?_⟩
      exact Crew.forall_move (fun _ worker => worker.activity.Supplied _) trivial
        fun other _ => others other

theorem holds_of_acknowledged (step : Step crew event next) (stocked : crew.Stocked)
    {number : UInt64} (acknowledged : number ∈ event.acknowledged) : next.world.Holds number := by
  apply (step.grown stocked).holds
  cases step with
  | draw | askEarlier | askDeciding => cases acknowledged
  | @settle name _ _ _ _ _ _ answered settled =>
      have supplied := stocked.supplied name
      rw [answered] at supplied
      exact supplied number (Transaction.mem_acknowledged_iff.mp acknowledged).2

end Step

/-! ## Runs -/

namespace Interleaving

variable {first last : Crew ι σ Store Unit} {history : List (Event ι)}

structure Supplied (first : Crew ι σ Store Unit) (history : List (Event ι))
    (last : Crew ι σ Store Unit) : Prop where
  grown : first.world.Grown last.world
  stocked : last.Stocked
  acknowledged : ∀ number ∈ history.flatMap Event.acknowledged, last.world.Holds number
  outcome : ∀ name phase transaction request answer,
    .asked name phase transaction request answer ∈ history →
    answer.status = first.world.store.outcome request

theorem Supplied.reached (supplied : Supplied first history last)
    (fresh : first.world.workload.frontier = .startingAt first.world.workload.recordCount)
    (positive : 0 < first.world.workload.recordCount)
    (loaded : ∀ number < first.world.workload.recordCount, first.world.Holds number)
    (run : Interleaving first history last) : last.world.Reached := by
  intro number below
  by_cases early : number < first.world.workload.recordCount
  · exact supplied.grown.holds (loaded number early)
  · exact supplied.acknowledged number
      ((run.covers fresh).known_of_le_last positive (UInt64.not_lt.mp early) below)

/-- Every call is answered as it should be, as long as all workers are loading or all
records are loaded. -/
theorem supplied (stocked : first.Stocked)
    (fresh : first.world.workload.frontier = .startingAt first.world.workload.recordCount)
    (positive : 0 < first.world.workload.recordCount)
    (loaded : (∀ event ∈ history, event.phase = .load) ∨
      ∀ number < first.world.workload.recordCount, first.world.Holds number)
    (run : Interleaving first history last) : Supplied first history last := by
  -- The records up to the frontier are there because acknowledged ones are, so both go
  -- through the induction together.
  induction run with
  | start => exact ⟨.rfl, stocked, by simp, by simp⟩
  | @step history event middle last earlier next induction =>
      have before := induction
        (loaded.imp_left fun loading other member => loading other (List.mem_append_left _ member))
      have reached : event.phase = .load ∨ middle.world.Reached :=
        loaded.imp (fun loading => loading event (by simp))
          fun loaded => before.reached fresh positive loaded earlier
      have grown := next.grown before.stocked
      refine ⟨before.grown.trans grown, next.stocked before.stocked reached, ?_, ?_⟩
      · intro number acknowledged
        rw [List.flatMap_append, List.flatMap_singleton, List.mem_append] at acknowledged
        rcases acknowledged with acknowledged | here
        · exact grown.holds (before.acknowledged number acknowledged)
        · exact next.holds_of_acknowledged before.stocked here
      · intro name phase transaction request answer asked
        rcases List.mem_append.mp asked with asked | here
        · exact before.outcome name phase transaction request answer asked
        · cases List.mem_singleton.mp here
          rw [next.outcome before.stocked]
          exact Store.outcome_congr before.grown.scanOutcome request

end Interleaving
end StoreBench
