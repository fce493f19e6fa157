import StoreBench.Proofs.Frontier.Contiguous
import StoreBench.Proofs.Interleaving.Steps

namespace StoreBench

/-! What the history of a run says about its workload. The plan never changes, and the
frontier is what the acknowledgements in the history make of the first one. Every call was
asked for a transaction that was drawn before, and every outcome that was settled came
from the store. -/

/-! ## What a drawing changes -/

namespace Drawn

variable {before after : Workload} {phase : Phase} {transaction : Transaction}

theorem toPlan_eq (drawn : Drawn before phase transaction after) :
    after.toPlan = before.toPlan := by
  cases drawn with
  | load values same => exact (Workload.toPlan_eq_of_bare same : _ = before.advanced.toPlan)
  | insert values same => exact (Workload.toPlan_eq_of_bare same : _ = before.advanced.toPlan)
  | read _ _ _ same => exact Workload.toPlan_eq_of_bare same
  | update _ _ _ same => exact Workload.toPlan_eq_of_bare same
  | scan _ _ _ _ same => exact Workload.toPlan_eq_of_bare same
  | readModifyWrite _ _ _ _ same => exact Workload.toPlan_eq_of_bare same

theorem frontier_eq (drawn : Drawn before phase transaction after) :
    after.frontier = before.frontier := by
  cases drawn with
  | load values same => exact (Workload.frontier_eq_of_bare same : _ = before.advanced.frontier)
  | insert values same => exact (Workload.frontier_eq_of_bare same : _ = before.advanced.frontier)
  | read _ _ _ same => exact Workload.frontier_eq_of_bare same
  | update _ _ _ same => exact Workload.frontier_eq_of_bare same
  | scan _ _ _ _ same => exact Workload.frontier_eq_of_bare same
  | readModifyWrite _ _ _ _ same => exact Workload.frontier_eq_of_bare same

theorem of_number (drawn : Drawn before phase transaction after) {number : UInt64}
    (numbered : transaction.number? = some number) :
    phase = .transactions ∧ ∃ values, transaction =
      ⟨.insert, [], .insert before.table (before.keyName number) values, some number⟩ := by
  cases drawn <;> cases numbered
  exact ⟨rfl, _, rfl⟩

end Drawn

/-! ## What settling changes -/

def Transaction.acknowledged (transaction : Transaction) (status : Status) : List UInt64 :=
  if status.isOk then transaction.number?.toList else []

theorem Transaction.mem_acknowledged_iff {transaction : Transaction} {status : Status}
    {number : UInt64} :
    number ∈ transaction.acknowledged status ↔
      status.isOk ∧ transaction.number? = some number := by
  unfold acknowledged
  split <;> simp_all

theorem Frontier.acknowledgeAll_append (frontier : Frontier) (first second : List UInt64) :
    frontier.acknowledgeAll (first ++ second) =
      (frontier.acknowledgeAll first >>= fun middle => middle.acknowledgeAll second) :=
  List.foldlM_append

theorem Frontier.acknowledgeAll_singleton (frontier : Frontier) (number : UInt64) :
    frontier.acknowledgeAll [number] = frontier.acknowledge number :=
  bind_pure _

theorem Workload.settle_eq_ok_iff {before after : Workload} {transaction : Transaction}
    {status : Status} :
    before.settle transaction status = .ok after ↔
      ∃ frontier, before.frontier.acknowledgeAll (transaction.acknowledged status) = .ok frontier ∧
        after = { before with frontier } := by
  have unmoved : (Except.ok before : Except Crash Workload) = .ok after ↔
      ∃ frontier, before.frontier.acknowledgeAll [] = .ok frontier ∧
        after = { before with frontier } := by
    constructor
    · intro same
      cases same
      exact ⟨before.frontier, rfl, rfl⟩
    · intro moved
      rcases moved with ⟨frontier, same, rfl⟩
      cases same
      rfl
  unfold settle Transaction.acknowledged
  cases transaction.number? with
  | none => rw [Option.toList_none, ite_self]; exact unmoved
  | some number =>
      cases status.isOk with
      | false => exact unmoved
      | true =>
          rw [Option.toList_some, if_pos rfl, Frontier.acknowledgeAll_singleton]
          exact acknowledge_eq_ok_iff

def Event.acknowledged {ι : Type} : Event ι → List UInt64
  | .settled _ _ transaction status => transaction.acknowledged status
  | _ => []

theorem Session.ask_workload {σ S H : Type} [Backend S H] {session after : Session σ H}
    {request : Request} {answer : Answer} {world later : World S}
    (asked : session.ask request world = (answer, after, later)) :
    later.workload = world.workload := by
  cases asked
  rfl

variable {ι σ S H : Type} [DecidableEq ι] [WordSource σ] [Backend S H]

namespace Step

variable {crew next : Crew ι σ S H} {event : Event ι}

theorem toPlan_eq (step : Step crew event next) :
    next.world.workload.toPlan = crew.world.workload.toPlan := by
  cases step with
  | draw ready drawn =>
      rcases Session.draw_eq_ok_iff.mp drawn with ⟨workload, source, made, rfl, rfl⟩
      exact (Workload.drawing_drawn made).toPlan_eq
  | askEarlier asking answered => rw [Crew.move_world, Session.ask_workload answered]
  | askDeciding asking answered => rw [Crew.move_world, Session.ask_workload answered]
  | settle answered settled =>
      rcases Workload.settle_eq_ok_iff.mp settled with ⟨frontier, _, rfl⟩
      rfl

theorem acknowledgeAll (step : Step crew event next) :
    crew.world.workload.frontier.acknowledgeAll event.acknowledged =
      .ok next.world.workload.frontier := by
  cases step with
  | draw ready drawn =>
      rcases Session.draw_eq_ok_iff.mp drawn with ⟨workload, source, made, rfl, rfl⟩
      rw [Crew.move_world, (Workload.drawing_drawn made).frontier_eq]
      rfl
  | askEarlier asking answered =>
      rw [Crew.move_world, Session.ask_workload answered]
      rfl
  | askDeciding asking answered =>
      rw [Crew.move_world, Session.ask_workload answered]
      rfl
  | settle answered settled =>
      rcases Workload.settle_eq_ok_iff.mp settled with ⟨frontier, acknowledged, rfl⟩
      exact acknowledged

end Step

namespace Interleaving

variable {first last : Crew ι σ S H} {history : List (Event ι)}

theorem toPlan_eq (run : Interleaving first history last) :
    last.world.workload.toPlan = first.world.workload.toPlan := by
  induction run with
  | start => rfl
  | step earlier next induction => exact next.toPlan_eq.trans induction

theorem acknowledgeAll (run : Interleaving first history last) :
    first.world.workload.frontier.acknowledgeAll (history.flatMap Event.acknowledged) =
      .ok last.world.workload.frontier := by
  induction run with
  | start => rfl
  | step earlier next induction =>
      rw [List.flatMap_append, Frontier.acknowledgeAll_append, induction,
        List.flatMap_singleton]
      exact next.acknowledgeAll

/-- The numbers that a run has acknowledged decide where its frontier is. -/
theorem covers (fresh : first.world.workload.frontier =
      .startingAt first.world.workload.recordCount)
    (run : Interleaving first history last) :
    Frontier.Covers first.world.workload.recordCount
      (· ∈ history.flatMap Event.acknowledged) last.world.workload.frontier := by
  have acknowledged := run.acknowledgeAll
  rw [fresh] at acknowledged
  exact Frontier.covers_of_acknowledgeAll acknowledged

end Interleaving

/-! ## Where events come from -/

def Answered {ι : Type} (history : List (Event ι)) (name : ι) (phase : Phase)
    (transaction : Transaction) (status : Status) : Prop :=
  .drew name phase transaction ∈ history ∧
    ∃ answer, .asked name phase transaction transaction.deciding answer ∈ history ∧
      answer.status = status

/-- What has to be in the history of a worker that has come this far. -/
def Activity.Traced {ι : Type} (history : List (Event ι)) (name : ι) : Activity → Prop
  | .ready => True
  | .asking phase transaction earlier =>
      .drew name phase transaction ∈ history ∧ earlier ⊆ transaction.earlier
  | .answered phase transaction status => Answered history name phase transaction status

theorem Answered.append {ι : Type} {history : List (Event ι)} {name : ι} {phase : Phase}
    {transaction : Transaction} {status : Status}
    (answered : Answered history name phase transaction status) (event : Event ι) :
    Answered (history ++ [event]) name phase transaction status := by
  rcases answered with ⟨drew, answer, asked, same⟩
  exact ⟨List.mem_append_left _ drew, answer, List.mem_append_left _ asked, same⟩

theorem Activity.Traced.append {ι : Type} {history : List (Event ι)} {name : ι}
    {activity : Activity} (traced : activity.Traced history name) (event : Event ι) :
    activity.Traced (history ++ [event]) name := by
  cases activity with
  | ready => trivial
  | asking phase transaction earlier => exact ⟨List.mem_append_left _ traced.1, traced.2⟩
  | answered phase transaction status => exact Answered.append traced event

namespace Step

variable {crew next : Crew ι σ S H} {event : Event ι} {history : List (Event ι)}

theorem traced (step : Step crew event next)
    (before : ∀ name, (crew.worker name).activity.Traced history name) (name : ι) :
    (next.worker name).activity.Traced (history ++ [event]) name := by
  have last : event ∈ history ++ [event] := List.mem_append_right _ (List.mem_singleton_self _)
  have others (other : ι) := (before other).append event
  revert name
  cases step with
  | draw ready drawn =>
      exact Crew.forall_move (fun other worker => worker.activity.Traced _ other)
        ⟨last, List.Subset.refl _⟩ fun other _ => others other
  | @askEarlier worker _ _ _ _ _ _ _ _ _ asking answered =>
      have traced := others worker
      rw [asking] at traced
      exact Crew.forall_move (fun other worker => worker.activity.Traced _ other)
        ⟨traced.1, fun _ member => traced.2 (List.mem_cons_of_mem _ member)⟩
        fun other _ => others other
  | @askDeciding worker _ _ _ _ _ answer _ asking answered =>
      have traced := others worker
      rw [asking] at traced
      exact Crew.forall_move (fun other worker => worker.activity.Traced _ other)
        ⟨traced.1, answer, last, rfl⟩ fun other _ => others other
  | settle answered settled =>
      exact Crew.forall_move (fun other worker => worker.activity.Traced _ other) trivial
        fun other _ => others other

theorem drawn {name : ι} {phase : Phase} {transaction : Transaction}
    (step : Step crew (.drew name phase transaction) next) :
    Drawn crew.world.workload phase transaction next.world.workload := by
  cases step with
  | draw ready drawn =>
      rcases Session.draw_eq_ok_iff.mp drawn with ⟨workload, source, made, rfl, rfl⟩
      exact Workload.drawing_drawn made

theorem answered_of_settled {name : ι} {phase : Phase} {transaction : Transaction}
    {status : Status} (step : Step crew (.settled name phase transaction status) next)
    (before : ∀ name, (crew.worker name).activity.Traced history name) :
    Answered history name phase transaction status := by
  cases step with
  | settle answered settled =>
      have traced := before name
      rw [answered] at traced
      exact traced

theorem drew_of_asked {name : ι} {phase : Phase} {transaction : Transaction}
    {request : Request} {answer : Answer}
    (step : Step crew (.asked name phase transaction request answer) next)
    (before : ∀ name, (crew.worker name).activity.Traced history name) :
    .drew name phase transaction ∈ history ∧ request ∈ transaction.requests := by
  have traced := before name
  cases step with
  | askEarlier asking answered =>
      rw [asking] at traced
      exact ⟨traced.1, List.mem_append_left _ (traced.2 (List.mem_cons_self ..))⟩
  | askDeciding asking answered =>
      rw [asking] at traced
      exact ⟨traced.1, List.mem_append_right _ (List.mem_singleton_self _)⟩

end Step

namespace Interleaving

variable {first last : Crew ι σ S H} {history : List (Event ι)}

theorem traced (ready : ∀ name, (first.worker name).activity = .ready)
    (run : Interleaving first history last) (name : ι) :
    (last.worker name).activity.Traced history name := by
  induction run generalizing name with
  | start => rw [ready name]; trivial
  | step earlier next induction => exact next.traced induction name

theorem drawn_of_drew (run : Interleaving first history last) {name : ι} {phase : Phase}
    {transaction : Transaction} (drew : .drew name phase transaction ∈ history) :
    ∃ before after, Drawn before phase transaction after ∧
      before.toPlan = first.world.workload.toPlan := by
  induction run with
  | start => cases drew
  | step earlier next induction =>
      rcases List.mem_append.mp drew with drew | here
      · exact induction drew
      · cases List.mem_singleton.mp here
        exact ⟨_, _, next.drawn, earlier.toPlan_eq⟩

theorem answered_of_settled (ready : ∀ name, (first.worker name).activity = .ready)
    (run : Interleaving first history last) {name : ι} {phase : Phase}
    {transaction : Transaction} {status : Status}
    (settled : .settled name phase transaction status ∈ history) :
    Answered history name phase transaction status := by
  induction run with
  | start => cases settled
  | step earlier next induction =>
      rcases List.mem_append.mp settled with settled | here
      · exact (induction settled).append _
      · cases List.mem_singleton.mp here
        exact (next.answered_of_settled (earlier.traced ready)).append _

theorem drew_of_asked (ready : ∀ name, (first.worker name).activity = .ready)
    (run : Interleaving first history last) {name : ι} {phase : Phase}
    {transaction : Transaction} {request : Request} {answer : Answer}
    (asked : .asked name phase transaction request answer ∈ history) :
    .drew name phase transaction ∈ history ∧ request ∈ transaction.requests := by
  induction run with
  | start => cases asked
  | step earlier next induction =>
      rcases List.mem_append.mp asked with asked | here
      · exact (induction asked).imp_left (List.mem_append_left _)
      · cases List.mem_singleton.mp here
        exact (next.drew_of_asked (earlier.traced ready)).imp_left (List.mem_append_left _)

theorem acknowledged_of_load (ready : ∀ name, (first.worker name).activity = .ready)
    (run : Interleaving first history last) {event : Event ι} (member : event ∈ history)
    (load : event.phase = .load) : event.acknowledged = [] := by
  cases event with
  | drew | asked => rfl
  | settled name phase transaction status =>
      cases load
      have answered := run.answered_of_settled ready member
      rcases run.drawn_of_drew answered.1 with ⟨before, after, drawn, _⟩
      cases drawn
      exact ite_self []

theorem frontier_eq (run : Interleaving first history last)
    (none : ∀ event ∈ history, event.acknowledged = []) :
    last.world.workload.frontier = first.world.workload.frontier := by
  have acknowledged := run.acknowledgeAll
  rw [List.flatMap_eq_nil_iff.mpr none] at acknowledged
  exact (Except.ok.inj acknowledged).symm

theorem frontier_eq_of_load (ready : ∀ name, (first.worker name).activity = .ready)
    (run : Interleaving first history last) (load : ∀ event ∈ history, event.phase = .load) :
    last.world.workload.frontier = first.world.workload.frontier :=
  run.frontier_eq fun event member => run.acknowledged_of_load ready member (load event member)

end Interleaving
end StoreBench
