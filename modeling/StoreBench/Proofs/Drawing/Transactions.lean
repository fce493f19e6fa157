import StoreBench.Benchmark.Phase
import StoreBench.Proofs.Drawing.Frame

namespace StoreBench

/-! What a transaction may look like when it is drawn. An insert takes the upcoming number,
and only inserts move the key sequence; every other transaction is aimed at a number that
is not past the frontier. Nothing that is drawn moves the frontier. -/

def Workload.advanced (workload : Workload) : Workload :=
  { workload with keySequence := workload.keySequence.next.2 }

/-- The transactions that a phase may draw, each with the workload after it is drawn. -/
inductive Drawn (before : Workload) : Phase → Transaction → Workload → Prop where
  | load {after : Workload} (values : Record) (same : after.bare = before.advanced.bare) :
      Drawn before .load
        ⟨.insert, [],
          .insert before.table (before.keyName before.keySequence.upcoming) values, none⟩ after
  | insert {after : Workload} (values : Record) (same : after.bare = before.advanced.bare) :
      Drawn before .transactions
        ⟨.insert, [],
          .insert before.table (before.keyName before.keySequence.upcoming) values,
          some before.keySequence.upcoming⟩ after
  | read {after : Workload} (number : UInt64) (fields : List String)
      (reached : number ≤ before.frontier.last) (same : after.bare = before.bare) :
      Drawn before .transactions
        ⟨.read, [], .read before.table (before.keyName number) fields, none⟩ after
  | update {after : Workload} (number : UInt64) (values : Record)
      (reached : number ≤ before.frontier.last) (same : after.bare = before.bare) :
      Drawn before .transactions
        ⟨.update, [], .update before.table (before.keyName number) values, none⟩ after
  | scan {after : Workload} (number : UInt64) (count : Nat) (fields : List String)
      (reached : number ≤ before.frontier.last) (same : after.bare = before.bare) :
      Drawn before .transactions
        ⟨.scan, [], .scan before.table (before.keyName number) count fields, none⟩ after
  | readModifyWrite {after : Workload} (number : UInt64) (fields : List String)
      (values : Record) (reached : number ≤ before.frontier.last)
      (same : after.bare = before.bare) :
      Drawn before .transactions
        ⟨.readModifyWrite, [.read before.table (before.keyName number) fields],
          .update before.table (before.keyName number) values, none⟩ after

inductive Operation.MadeOf : Operation → List Request → Prop where
  | insert (table key : String) (values : Record) : MadeOf .insert [.insert table key values]
  | read (table key : String) (fields : List String) : MadeOf .read [.read table key fields]
  | update (table key : String) (values : Record) : MadeOf .update [.update table key values]
  | scan (table start : String) (count : Nat) (fields : List String) :
      MadeOf .scan [.scan table start count fields]
  | readModifyWrite (table key : String) (fields : List String) (values : Record) :
      MadeOf .readModifyWrite [.read table key fields, .update table key values]

theorem Drawn.madeOf {before after : Workload} {phase : Phase} {transaction : Transaction}
    (drawn : Drawn before phase transaction after) :
    transaction.operation.MadeOf transaction.requests := by
  cases drawn with
  | load values same | insert values same => exact .insert _ _ values
  | read number fields _ same => exact .read _ _ fields
  | update number values _ same => exact .update _ _ values
  | scan number count fields _ same => exact .scan _ _ count fields
  | readModifyWrite number fields values _ same => exact .readModifyWrite _ _ fields values

namespace Workload

open Drawing

variable {σ α : Type}

/-! ## Beginnings of drawings -/

theorem numbered {next : UInt64 → String → Drawing σ α} {before after : Workload}
    {source rest : σ} {value : α}
    (drawn : (nextNumber >>= fun number => keyWith number >>= next number).run
      (before, source) = .ok (value, after, rest)) :
    (next before.keySequence.upcoming (before.keyName before.keySequence.upcoming)).run
      (before.advanced, source) = .ok (value, after, rest) := by
  rcases run_bind_eq_ok_iff.mp drawn with ⟨number, _, handed, drawn⟩
  cases handed
  rcases run_bind_eq_ok_iff.mp drawn with ⟨key, _, named, drawn⟩
  cases named
  exact drawn

variable [WordSource σ]

theorem aimed {next : String → Drawing σ α} {before after : Workload} {source rest : σ}
    {value : α}
    (drawn : (drawTarget >>= fun number => keyWith number >>= next).run (before, source) =
      .ok (value, after, rest)) :
    ∃ number middle between, number ≤ before.frontier.last ∧ middle.bare = before.bare ∧
      (next (before.keyName number)).run (middle, between) = .ok (value, after, rest) := by
  rcases run_bind_eq_ok_iff.mp drawn with ⟨number, ⟨middle, between⟩, target, drawn⟩
  rcases run_bind_eq_ok_iff.mp drawn with ⟨key, _, named, drawn⟩
  have same := drawTargetWithin_keeps redrawLimit target
  have sameKey : middle.keyName number = before.keyName number :=
    congrArg (fun plan : Plan => plan.keyName number) (toPlan_eq_of_bare same)
  cases named
  exact ⟨number, middle, between, le_last_of_drawTargetWithin target, same, sameKey ▸ drawn⟩

/-! ## Transactions -/

theorem table_eq_of_bare {before after : Workload} (same : after.bare = before.bare) :
    after.table = before.table :=
  congrArg Plan.table (toPlan_eq_of_bare same)

variable {before after : Workload} {source rest : σ} {transaction : Transaction}

theorem nextLoad_drawn (drawn : nextLoad.run (before, source) = .ok (transaction, after, rest)) :
    Drawn before .load transaction after := by
  rcases run_bind_eq_ok_iff.mp (numbered drawn) with ⟨values, ⟨later, between⟩, recorded, drawn⟩
  have same := drawRecord_keeps recorded
  cases drawn
  rw [table_eq_of_bare same]
  exact .load values same

theorem nextInsert_drawn
    (drawn : nextInsert.run (before, source) = .ok (transaction, after, rest)) :
    Drawn before .transactions transaction after := by
  rcases run_bind_eq_ok_iff.mp (numbered drawn) with ⟨values, ⟨later, between⟩, recorded, drawn⟩
  have same := drawRecord_keeps recorded
  cases drawn
  rw [table_eq_of_bare same]
  exact .insert values same

theorem nextRead_drawn (drawn : nextRead.run (before, source) = .ok (transaction, after, rest)) :
    Drawn before .transactions transaction after := by
  rcases aimed drawn with ⟨number, middle, between, reached, same, drawn⟩
  rcases run_bind_eq_ok_iff.mp drawn with ⟨fields, ⟨later, between⟩, wanted, drawn⟩
  have sameLater := (drawWanted_keeps wanted).trans same
  cases drawn
  rw [table_eq_of_bare sameLater]
  exact .read number fields reached sameLater

theorem nextUpdate_drawn
    (drawn : nextUpdate.run (before, source) = .ok (transaction, after, rest)) :
    Drawn before .transactions transaction after := by
  rcases aimed drawn with ⟨number, middle, between, reached, same, drawn⟩
  rcases run_bind_eq_ok_iff.mp drawn with ⟨values, ⟨later, between⟩, written, drawn⟩
  have sameLater := (drawUpdate_keeps written).trans same
  cases drawn
  rw [table_eq_of_bare sameLater]
  exact .update number values reached sameLater

theorem nextScan_drawn (drawn : nextScan.run (before, source) = .ok (transaction, after, rest)) :
    Drawn before .transactions transaction after := by
  rcases aimed drawn with ⟨number, middle, between, reached, same, drawn⟩
  rcases run_bind_eq_ok_iff.mp drawn with ⟨length, ⟨later, between⟩, lengthDrawn, drawn⟩
  have sameLater := (drawScanLength_keeps lengthDrawn).trans same
  rcases run_bind_eq_ok_iff.mp drawn with ⟨fields, ⟨last, between⟩, wanted, drawn⟩
  have sameLast := (drawWanted_keeps wanted).trans sameLater
  cases drawn
  rw [table_eq_of_bare sameLast]
  exact .scan number length.toNat fields reached sameLast

theorem nextReadModifyWrite_drawn
    (drawn : nextReadModifyWrite.run (before, source) = .ok (transaction, after, rest)) :
    Drawn before .transactions transaction after := by
  rcases aimed drawn with ⟨number, middle, between, reached, same, drawn⟩
  rcases run_bind_eq_ok_iff.mp drawn with ⟨fields, ⟨later, between⟩, wanted, drawn⟩
  have sameLater := (drawWanted_keeps wanted).trans same
  rcases run_bind_eq_ok_iff.mp drawn with ⟨values, ⟨last, between⟩, written, drawn⟩
  have sameLast := (drawUpdate_keeps written).trans sameLater
  cases drawn
  rw [table_eq_of_bare sameLast]
  exact .readModifyWrite number fields values reached sameLast

theorem drawn_congr {middle : Workload} {phase : Phase} (same : middle.bare = before.bare)
    (drawn : Drawn middle phase transaction after) : Drawn before phase transaction after := by
  have plan := toPlan_eq_of_bare same
  have numbers := keySequence_eq_of_bare same
  have reach := frontier_eq_of_bare same
  have next : middle.advanced.bare = before.advanced.bare := by
    have moved := congrArg (fun workload : Workload =>
      { workload with keySequence := workload.keySequence.next.2 }) same
    exact moved
  cases drawn with
  | load values sameAfter =>
      rw [plan, numbers]
      exact .load values (sameAfter.trans next)
  | insert values sameAfter =>
      rw [plan, numbers]
      exact .insert values (sameAfter.trans next)
  | read number fields reached sameAfter =>
      rw [plan]
      exact .read number fields (reach ▸ reached) (sameAfter.trans same)
  | update number values reached sameAfter =>
      rw [plan]
      exact .update number values (reach ▸ reached) (sameAfter.trans same)
  | scan number count fields reached sameAfter =>
      rw [plan]
      exact .scan number count fields (reach ▸ reached) (sameAfter.trans same)
  | readModifyWrite number fields values reached sameAfter =>
      rw [plan]
      exact .readModifyWrite number fields values (reach ▸ reached) (sameAfter.trans same)

theorem nextTransaction_drawn
    (drawn : nextTransaction.run (before, source) = .ok (transaction, after, rest)) :
    Drawn before .transactions transaction after := by
  rcases run_bind_eq_ok_iff.mp drawn with ⟨operation, ⟨middle, between⟩, chosen, drawn⟩
  apply drawn_congr (drawOperation_keeps chosen)
  cases operation with
  | insert => exact nextInsert_drawn drawn
  | read => exact nextRead_drawn drawn
  | update => exact nextUpdate_drawn drawn
  | scan => exact nextScan_drawn drawn
  | readModifyWrite => exact nextReadModifyWrite_drawn drawn

theorem drawing_drawn {phase : Phase}
    (drawn : phase.drawing.run (before, source) = .ok (transaction, after, rest)) :
    Drawn before phase transaction after := by
  cases phase with
  | load => exact nextLoad_drawn drawn
  | transactions => exact nextTransaction_drawn drawn

end Workload

theorem Session.draw_eq_ok_iff {σ S H α : Type} {drawing : Drawing σ α}
    {session after : Session σ H} {world later : World S} {value : α} :
    session.draw drawing world = .ok (value, after, later) ↔
      ∃ workload source,
        drawing.run (world.workload, session.source) = .ok (value, workload, source) ∧
        after = { session with source } ∧ later = { world with workload } := by
  simp only [Session.draw, bind_eq_ok_iff, pure_eq_ok_iff, Prod.mk.injEq]
  constructor
  · intro loaded
    rcases loaded with ⟨⟨_, workload, source⟩, drawn, rfl, rfl, rfl⟩
    exact ⟨workload, source, drawn, rfl, rfl⟩
  · intro loaded
    rcases loaded with ⟨workload, source, drawn, rfl, rfl⟩
    exact ⟨⟨value, workload, source⟩, drawn, rfl, rfl, rfl⟩

end StoreBench
