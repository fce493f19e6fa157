import StoreBench.Proofs.Drawing.Completes
import StoreBench.Proofs.Interleaving.Schedules
import StoreBench.Proofs.Session.Performed

namespace StoreBench

/-! Only operations with a positive proportion are run. What is registered in the mix has been
compared with zero before, and both ways out of a draw, a weight that reaches the target and the
fallback to the last entry, choose a registered entry. So it does not matter what sums and targets
come to, whether they are infinite or no numbers at all. -/

/-! ## Proportions -/

namespace Proportions

def of (proportions : Proportions) : Operation → Float
  | .insert => proportions.insert
  | .read => proportions.read
  | .update => proportions.update
  | .scan => proportions.scan
  | .readModifyWrite => proportions.readModifyWrite

theorem mem_positive_iff {proportions : Proportions} {operation : Operation} :
    operation ∈ proportions.positive.map Prod.fst ↔ 0 < proportions.of operation := by
  cases operation <;> simp [positive, weights, of]

end Proportions

/-! ## Requests -/

namespace Request

def operations : Request → List Operation
  | .insert .. => [.insert]
  | .read .. => [.read, .readModifyWrite]
  | .update .. => [.update, .readModifyWrite]
  | .scan .. => [.scan]
  | .delete .. => []

def Licensed (proportions : Proportions) (request : Request) : Prop :=
  ∃ operation ∈ request.operations, 0 < proportions.of operation

def Looks : Request → Prop
  | .read .. | .scan .. => True
  | .insert .. | .update .. | .delete .. => False

variable {proportions : Proportions} {request : Request}

theorem Licensed.looks (licensed : request.Licensed proportions)
    (noInsert : ¬0 < proportions.insert) (noUpdate : ¬0 < proportions.update)
    (noReadModifyWrite : ¬0 < proportions.readModifyWrite) : request.Looks := by
  rcases licensed with ⟨operation, member, positive⟩
  cases request with
  | read | scan => trivial
  | insert table key values =>
      cases List.mem_singleton.mp member
      exact noInsert positive
  | update table key values =>
      rcases List.mem_pair.mp member with rfl | rfl
      · exact noUpdate positive
      · exact noReadModifyWrite positive
  | delete table key => cases member

end Request

theorem Operation.MadeOf.mem_operations {operation : Operation} {requests : List Request}
    (made : operation.MadeOf requests) : ∀ request ∈ requests, operation ∈ request.operations := by
  cases made <;> simp [Request.operations]

theorem Operation.MadeOf.licensed {operation : Operation} {requests : List Request}
    {proportions : Proportions} (made : operation.MadeOf requests)
    (positive : 0 < proportions.of operation) :
    ∀ request ∈ requests, request.Licensed proportions :=
  fun request member => ⟨operation, made.mem_operations request member, positive⟩

/-! ## Draws -/

namespace Workload

open Drawing

variable {properties : Properties} {origin before after : Workload} {proportions : Proportions}

theorem Reached.mem_operations_iff (reached : Reached origin before)
    (configured : Configured properties origin)
    (read : proportionsOf properties = .ok proportions) {operation : Operation} :
    operation ∈ before.operations.entries.map Prod.fst ↔ 0 < proportions.of operation := by
  have mix := (mixOf_eq_ok_iff.mp (configured.of_proportions read).1).2
  rw [entries_eq_of_idle reached.idle_eq, mix, Proportions.entries_mix,
    Proportions.mem_positive_iff]

variable {σ : Type} [WordSource σ]

theorem Reached.exists_drawOperation (reached : Reached origin before)
    (configured : Configured properties origin)
    (read : proportionsOf properties = .ok proportions) (source : σ) :
    ∃ operation after rest, drawOperation.run (before, source) = .ok (operation, after, rest) ∧
      0 < proportions.of operation := by
  rcases Weighted.exists_draw (configured.entries_ne_nil reached.idle_eq) source with
    ⟨operation, mix, rest, drawn⟩
  have run := run_drawOperation before source
  rw [drawn] at run
  exact ⟨_, _, _, run,
    (reached.mem_operations_iff configured read).mp (mem_of_drawOperation run)⟩

theorem Reached.positive_of_nextTransaction (reached : Reached origin before)
    (configured : Configured properties origin)
    (read : proportionsOf properties = .ok proportions) {source rest : σ}
    {transaction : Transaction}
    (drawn : nextTransaction.run (before, source) = .ok (transaction, after, rest)) :
    0 < proportions.of transaction.operation :=
  (reached.mem_operations_iff configured read).mp (operation_of_nextTransaction drawn)

end Workload

/-! ## Runs -/

variable {properties : Properties} {origin : Workload} {proportions : Proportions}

/-- Whatever the proportions are, each operation that is drawn has a positive one, after any use
of the workload and for any words. So a transaction is made of the calls of such an operation, and
in any run of workers, finished or not, the transactions have led to no other calls. If no
proportion of a writing operation is positive, these calls are reads and scans. -/
theorem only_operations_in_mix (accepted : Workload.ofProperties properties = .ok origin)
    (read : Workload.proportionsOf properties = .ok proportions) :
    (∀ {σ : Type} [WordSource σ] {before : Workload} (source : σ),
      Workload.Reached origin before → ∃ operation after rest,
        Workload.drawOperation.run (before, source) = .ok (operation, after, rest) ∧
        0 < proportions.of operation) ∧
    (∀ {σ S H : Type} [WordSource σ] [Backend S H] {session after : Session σ H}
      {world later : World S} {outcome : Outcome}, Workload.Reached origin world.workload →
      session.transact world = .ok (outcome, after, later) →
      0 < proportions.of outcome.operation ∧ outcome.operation.MadeOf outcome.requests ∧
      ∀ request ∈ outcome.requests, request.Licensed proportions) ∧
    ∀ {ι σ S H : Type} [DecidableEq ι] [WordSource σ] [Backend S H] {first last : Crew ι σ S H}
      {history : List (Event ι)}, Workload.Reached origin first.world.workload →
      (∀ name, (first.worker name).activity = .ready) → Interleaving first history last →
      ∀ {name transaction request answer},
        .asked name .transactions transaction request answer ∈ history →
        0 < proportions.of transaction.operation ∧
        transaction.operation.MadeOf transaction.requests ∧ request ∈ transaction.requests ∧
        request.Licensed proportions ∧
        (¬0 < proportions.insert → ¬0 < proportions.update → ¬0 < proportions.readModifyWrite →
          request.Looks) := by
  have configured := Workload.configured_of_ofProperties accepted
  refine ⟨fun source reached => reached.exists_drawOperation configured read source, ?_, ?_⟩
  · intro σ S H _ _ session after world later outcome reached performed
    rcases Session.performed performed with ⟨transaction, workload, run, came, _⟩
    have positive := reached.positive_of_nextTransaction configured read run
    have drawn : Drawn world.workload .transactions transaction workload :=
      Workload.drawing_drawn run
    have made := drawn.madeOf
    rw [came.operation, came.requests]
    exact ⟨positive, made, made.licensed positive⟩
  · intro ι σ S H _ _ _ first last history begins ready run name transaction request answer asked
    rcases run.drew_of_asked ready asked with ⟨drew, member⟩
    rcases run.run_of_drew begins drew with ⟨before, after, source, rest, reached, drawn⟩
    have positive := reached.positive_of_nextTransaction configured read drawn
    have made := (Workload.drawing_drawn drawn).madeOf
    have licensed := made.licensed positive request member
    exact ⟨positive, made, member, licensed, licensed.looks⟩

/-- Reads, and scans without end. The other proportions are zero, below zero and no number. -/
def oddMix : Properties where
  table := [("recordcount", .integer 1), ("readproportion", .float 0.5),
    ("updateproportion", .float (-1)), ("insertproportion", .float (0 / 0)),
    ("scanproportion", .float (1 / 0))]

def Event.isOfScan {ι : Type} : Event ι → Bool
  | .asked _ .transactions transaction _ _ => transaction.operation = .scan
  | _ => false

/-- The first fraction is zero, and zero times an endless sum is no number that a weight reaches.
What is chosen is the last of the operations that are left. -/
theorem only_operations_in_mix_oddMix :
    ∃ origin last, ∃ history : List (Event (Fin 1)), ∃ transaction request answer,
      Workload.ofProperties oddMix = .ok origin ∧
      Interleaving (Crew.opened .transactions 1 1 (fun _ => Script.ofList [0])
        (World.mk origin (Store.ordered ∅))) history last ∧
      .asked 0 .transactions transaction request answer ∈ history ∧
      transaction.operation = .scan ∧ 0 < (1 / 0 : Float) ∧ request.Looks := by
  have computed : (Workload.ofProperties oddMix).toOption.bind (fun origin =>
      ((Crew.opened .transactions 1 1 (fun _ => Script.ofList [0])
        (World.mk origin (Store.ordered ∅))).follow [0, 0]).map fun (history, _) =>
          history.any Event.isOfScan) = some true := by decide +kernel
  rcases Option.bind_eq_some_iff.mp computed with ⟨origin, accepted, computed⟩
  rcases Option.map_eq_some_iff.mp computed with ⟨⟨history, last⟩, followed, scanned⟩
  have accepted := toOption_eq_some_iff.mp accepted
  have run := Interleaving.start.of_follow followed
  rcases List.any_eq_true.mp scanned with ⟨event, member, isOfScan⟩
  rcases event with _ | ⟨name, _ | _, transaction, request, answer⟩ | _
  case asked.transactions =>
    cases Subsingleton.elim name 0
    have scan := of_decide_eq_true isOfScan
    rcases (only_operations_in_mix accepted rfl).2.2 .start (fun _ => rfl) run member with
      ⟨positive, _, _, _, looks⟩
    rw [scan] at positive
    exact ⟨origin, last, history, transaction, request, answer, accepted, run, member, scan,
      positive, looks (by decide +kernel) (by decide +kernel) (by decide +kernel)⟩
  all_goals cases isOfScan

end StoreBench
