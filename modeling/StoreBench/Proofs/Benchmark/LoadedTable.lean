import Std.Data.String.ToNat
import StoreBench.Proofs.Benchmark.Reported
import StoreBench.Proofs.Drawing.WellFormed
import StoreBench.Proofs.Interleaving.Numbered
import StoreBench.Proofs.Store.Filled

namespace StoreBench

/-! What a load leaves in the tables of a store. The numbers of a run go to its inserts without gap
or duplicate. So a load into an empty store leaves one record for each of its transactions, and
when keys are in order, these are the records with the first numbers. -/

/-! ## Requests of a run -/

def Event.request? {ι : Type} : Event ι → Option Request
  | .asked _ _ _ request _ => some request
  | _ => none

def requestsAsked {ι : Type} (history : List (Event ι)) : List Request :=
  history.filterMap Event.request?

theorem mem_requestsAsked_iff {ι : Type} {history : List (Event ι)} {request : Request} :
    request ∈ requestsAsked history ↔
      ∃ name phase transaction answer,
        .asked name phase transaction request answer ∈ history := by
  rw [requestsAsked, List.mem_filterMap]
  constructor
  · rintro ⟨event, member, seen⟩
    cases event with
    | drew | settled => cases seen
    | asked name phase transaction _ answer =>
        cases seen
        exact ⟨name, phase, transaction, answer, member⟩
  · rintro ⟨name, phase, transaction, answer, member⟩
    exact ⟨_, member, rfl⟩

section Requests

variable {ι σ : Type} [DecidableEq ι] [WordSource σ] {tables : Tables}

theorem Step.store_eq {crew next : Crew ι σ Store Unit} {event : Event ι}
    (step : Step crew event next) (ordered : crew.world.store = .ordered tables) :
    next.world.store = .ordered (tables.after event.request?.toList) := by
  cases step with
  | draw ready drawn =>
      rcases Session.draw_eq_ok_iff.mp drawn with ⟨workload, source, made, rfl, rfl⟩
      exact ordered
  | askEarlier asking answered | askDeciding asking answered =>
      rw [Crew.move_world, (Session.ask_store answered).2, ordered]
      rfl
  | settle answered settled => exact ordered

theorem Interleaving.store_eq {first last : Crew ι σ Store Unit} {history : List (Event ι)}
    (ordered : first.world.store = .ordered tables) (run : Interleaving first history last) :
    last.world.store = .ordered (tables.after (requestsAsked history)) := by
  induction run with
  | start => exact ordered
  | @step history event middle last earlier next induction =>
      rw [next.store_eq induction, ← Tables.after_append, requestsAsked, requestsAsked,
        List.filterMap_append]
      rfl

end Requests

/-! ## Names -/

namespace Plan

theorem keyName_of_ordered {plan : Plan} (ordered : plan.keyOrder = .ordered) (number : UInt64) :
    plan.keyName number = "user" ++ toString number.toNat := by
  rw [keyName, ordered]

theorem shown_injective (label : String) :
    Function.Injective fun number : Nat => label ++ toString number :=
  fun _ _ same => Nat.repr_inj.mp ((String.append_right_inj label).mp same)

theorem nodup_fieldNames (plan : Plan) : plan.fieldNames.Nodup :=
  List.nodup_range.map (shown_injective "field")

end Plan

/-! ## Loads -/

/-- Tables that hold a number of whole records in one table, under the keys of the numbers from a
first one on, and nothing else. -/
structure Tables.HoldsFrom (plan : Plan) (start count : Nat) (tables : Tables) : Prop where
  size : (tables.records plan.table).size = count
  keys : ∀ key, key ∈ tables.records plan.table ↔
    ∃ number, start ≤ number ∧ number < start + count ∧ key = "user" ++ toString number
  fields : ∀ (key : String) (fields : Fields), (tables.records plan.table)[key]? = some fields →
    fields.size = plan.fieldCount.toNat ∧ ∀ name, name ∈ fields ↔
      ∃ index < plan.fieldCount.toNat, name = "field" ++ toString index
  others : ∀ table, table ≠ plan.table → tables[table]? = none

section Load

variable {ι σ S H : Type} [DecidableEq ι] [WordSource σ] [Backend S H]
variable {properties : Properties}

theorem Interleaving.inserted_of_load {first last : Crew ι σ S H} {history : List (Event ι)}
    (configured : Workload.Configured properties first.world.workload)
    (ready : ∀ name, (first.worker name).activity = .ready)
    (run : Interleaving first history last) (load : ∀ event ∈ history, event.phase = .load)
    {request : Request} (member : request ∈ requestsAsked history) :
    ∃ number values, Dispensed first history number ∧
      request = .insert first.world.workload.table (first.world.workload.keyName number) values ∧
      values.map Prod.fst = first.world.workload.fieldNames := by
  rcases mem_requestsAsked_iff.mp member with ⟨name, phase, transaction, answer, asked⟩
  rcases run.drew_of_asked ready asked with ⟨drew, inside⟩
  cases load _ drew
  rcases List.append_of_mem drew with ⟨past, later, rfl⟩
  rcases run.at_event with ⟨before, after, earlier, step⟩
  rcases step.drawn.of_load with ⟨isInsert, single, values, deciding⟩
  have handed : Dispensed first (past ++ .drew name .load transaction :: later) before.upcoming :=
    ⟨past, _, later, rfl, decide_eq_true isInsert, before, earlier, rfl⟩
  rcases Sizes.exists_of configured with ⟨sizes, given⟩
  cases step with
  | draw here drawn =>
      rcases Session.draw_eq_ok_iff.mp drawn with ⟨workload, words, made, rfl, rfl⟩
      have wellFormed := Workload.wellFormed_of_drawing configured given
        (earlier.reached .start) made inside
      have own : request = transaction.deciding := by
        simpa [Transaction.requests, single] using inside
      rw [own, deciding, earlier.toPlan_eq] at wellFormed
      refine ⟨_, values, handed, ?_, wellFormed.filled.names⟩
      rw [own, deciding, earlier.toPlan_eq]
      rfl

theorem Interleaving.asked_iff_of_load [Fintype ι] {first last : Crew ι σ S H}
    {history : List (Event ι)} {total : Nat}
    (configured : Workload.Configured properties first.world.workload)
    (begins : first.Begins .load total) (run : Interleaving first history last)
    (finished : last.Finished) (successful : ∀ event ∈ history, event.succeeds) {key : String} :
    (∃ values, .insert first.world.workload.table key values ∈ requestsAsked history) ↔
      ∃ number ∈ numbersFrom first.upcoming total, key = first.world.workload.keyName number := by
  have load := (run.within begins.within).1
  constructor
  · rintro ⟨values, member⟩
    rcases run.inserted_of_load configured begins.ready load member with
      ⟨number, _, dispensed, insert, _⟩
    cases insert
    rw [run.dispensed_iff, run.inserts_of_load begins finished] at dispensed
    exact ⟨number, dispensed, rfl⟩
  · rintro ⟨number, member, rfl⟩
    rcases (run.loaded_iff begins finished successful).mpr member with
      ⟨past, between, later, name, transaction, values, answer, rfl, _⟩
    exact ⟨values, mem_requestsAsked_iff.mpr ⟨name, .load, transaction, answer, by simp⟩⟩

end Load

section Ordered

variable {ι σ : Type} [DecidableEq ι] [Fintype ι] [WordSource σ] {properties : Properties}
variable {first last : Crew ι σ Store Unit} {history : List (Event ι)} {total : Nat}

theorem Interleaving.succeeds_of_load
    (configured : Workload.Configured properties first.world.workload) {tables : Tables}
    (ordered : first.world.store = .ordered tables) (begins : first.Begins .load total)
    (run : Interleaving first history last) : ∀ event ∈ history, event.succeeds := by
  have stocked : first.Stocked := by
    refine ⟨?_, fun name => ?_⟩
    · rw [ordered]
      trivial
    · rw [begins.ready name]
      trivial
  have supplied := run.supplied stocked configured.frontier configured.recordCount_positive
    (.inl (run.within begins.within).1)
  intro event member
  cases event with
  | drew | settled => rfl
  | asked name phase transaction request answer =>
      have status := supplied.outcome name phase transaction request answer member
      have fine : first.world.store.outcome request = .ok := by
        rw [ordered]
        cases request <;> rfl
      simp [Event.succeeds, status, fine, Status.isOk]

theorem Interleaving.holdsFrom_of_load
    (configured : Workload.Configured properties first.world.workload)
    (inOrder : first.world.workload.keyOrder = .ordered)
    (empty : first.world.store = .ordered ∅) (begins : first.Begins .load total)
    (room : first.upcoming.toNat + total ≤ 2 ^ 64) (run : Interleaving first history last)
    (finished : last.Finished) :
    ∃ tables : Tables, last.world.store = .ordered tables ∧
      tables.HoldsFrom first.world.workload.toPlan first.upcoming.toNat total := by
  have load := (run.within begins.within).1
  have successful := run.succeeds_of_load configured empty begins
  have source (request : Request) (member : request ∈ requestsAsked history) :=
    run.inserted_of_load configured begins.ready load member
  have filled : (Tables.after (requestsAsked history) ∅).FilledBy
      first.world.workload.table (requestsAsked history) := by
    apply Tables.filledBy_after
    intro request member
    rcases source request member with ⟨number, values, _, insert, _⟩
    exact ⟨_, values, insert⟩
  -- The keys are those of the numbers, which are shown as they are.
  have keys (key : String) : key ∈ (Tables.after (requestsAsked history) ∅).records
        first.world.workload.table ↔
      ∃ number, first.upcoming.toNat ≤ number ∧ number < first.upcoming.toNat + total ∧
        key = "user" ++ toString number := by
    rw [filled.mem_records_iff, run.asked_iff_of_load configured begins finished successful]
    constructor
    · rintro ⟨number, member, rfl⟩
      rcases (mem_numbersFrom_iff_of_room room).mp member with ⟨lower, upper⟩
      exact ⟨number.toNat, lower, upper, Plan.keyName_of_ordered inOrder number⟩
    · rintro ⟨number, lower, upper, rfl⟩
      have small : (UInt64.ofNat number).toNat = number :=
        UInt64.toNat_ofNat_of_lt' (by rw [UInt64.size]; omega)
      refine ⟨.ofNat number, mem_numbersFrom_of_between (by omega) (by omega), ?_⟩
      rw [Plan.keyName_of_ordered inOrder, small]
  refine ⟨_, run.store_eq empty, ?_, keys, ?_, filled.others⟩
  · have distinct : ((List.range' first.upcoming.toNat total).map
        fun number => "user" ++ toString number).Nodup :=
      List.Nodup.map (Plan.shown_injective "user") List.nodup_range'
    rw [size_eq_length distinct, List.length_map, List.length_range']
    intro key
    rw [keys, List.mem_map]
    simp only [List.mem_range'_1, and_assoc, eq_comm]
  · intro key fields found
    rw [Tables.getElem?_records] at found
    rcases filled.inserted key fields found with ⟨values, member, rfl⟩
    rcases source _ member with ⟨number, own, _, insert, names⟩
    cases insert
    have distinct : (values.map Prod.fst).Nodup := names ▸ Plan.nodup_fieldNames _
    constructor
    · have count := congrArg List.length names
      rw [List.length_map, Plan.fieldNames, List.length_map, List.length_range] at count
      rw [Fields.size_ofRecord distinct, count]
    · intro name
      rw [Fields.mem_ofRecord, names, Plan.fieldNames, List.mem_map]
      simp only [List.mem_range, Plan.fieldName, eq_comm]

end Ordered

/-! ## Phases -/

theorem Workload.keyOrder_eq {properties : Properties} {workload : Workload}
    (configured : Workload.Configured properties workload)
    (inOrder : Properties.orDefault Properties.getText properties "insertorder" "hashed" =
      .ok "ordered") : workload.keyOrder = .ordered := by
  have read := configured.keyOrder
  simp only [keyOrderOf, inOrder] at read
  exact (Except.ok.inj read).symm

/-- However many workers insert, in whatever order and in whichever phase, the first numbers that
are dispensed are those from the configured start on, each to one insert. So after a load in order
into an empty store, the table holds as many whole records as the report counts operations, under
the keys of the numbers from the start on. -/
theorem Workload.dispensesFrom_and_holdsFrom {properties : Properties} {workload : Workload}
    {start : UInt64} (accepted : Workload.ofProperties properties = .ok workload)
    (starts : Properties.orDefault Properties.getNatural properties "insertstart" 0 = .ok start) :
    (∀ (ι σ S H : Type) [DecidableEq ι] [WordSource σ] [Backend S H] (first last : Crew ι σ S H)
      (history : List (Event ι)) (count : Nat), first.world.workload = workload →
      Interleaving first history last → count ≤ inserts history →
      start.toNat + count ≤ 2 ^ 64 → DispensesFrom first history start.toNat count) ∧
    (Properties.orDefault Properties.getText properties "insertorder" "hashed" = .ok "ordered" →
      ∀ (σ : Type) [WordSource σ] (benchmark : Benchmark) (total : Nat) (sources : Nat → σ)
        (history : List (Event (Fin benchmark.threads)))
        (shift : Shift (Fin benchmark.threads) σ Store Unit) (store : String) (duration : Nat),
      Shift.Course (.opened benchmark.latency .load benchmark.threads total sources
        ⟨workload, .ordered ∅⟩) history shift → shift.Over →
      start.toNat + total / benchmark.threads * benchmark.threads ≤ 2 ^ 64 →
      (shift.report .load store benchmark total duration).executed =
        total / benchmark.threads * benchmark.threads ∧
      ∃ tables : Tables, shift.crew.world.store = .ordered tables ∧
        tables.HoldsFrom workload.toPlan start.toNat
          (shift.report .load store benchmark total duration).executed) := by
  have configured := Workload.configured_of_ofProperties accepted
  have upcoming : workload.keySequence.upcoming = start :=
    congrArg Counter.upcoming (configured.keySequence_eq starts)
  constructor
  · rintro ι σ S H _ _ _ first last history count rfl run early room
    rw [← upcoming] at room ⊢
    exact run.dispensesFrom early room
  · intro inOrder σ _ benchmark total sources history shift store duration course ended room
    have executed := course.executed_eq ended store duration
    refine ⟨executed, ?_⟩
    have begins := Crew.opened_begins .load benchmark.threads total sources
      (⟨workload, .ordered ∅⟩ : World Store)
    rw [executed]
    rw [Nat.mul_comm, ← upcoming] at room
    rw [Nat.mul_comm, ← upcoming]
    exact course.interleaving.holdsFrom_of_load configured (Workload.keyOrder_eq configured inOrder)
      rfl begins room (course.finished ended)

def Workload.orderedFromFive : Properties where
  table := [("recordcount", .integer 3), ("fieldcount", .integer 2), ("fieldlength", .integer 1),
    ("insertstart", .integer 5), ("insertorder", .text "ordered"), ("readproportion", .float 1),
    ("updateproportion", .float 0)]

def Workload.ofOrderedFromFive : Workload :=
  { ofThreeRecords with
    fieldCount := 2
    keyOrder := .ordered
    fields := ⟨0, 1, 0, by decide⟩
    keySequence := .startingAt 5 }

def Run.ofOrderedFromFive : Run Store :=
  { Run.ofTwoWorkers with world := ⟨.ofOrderedFromFive, .ordered ∅⟩ }

theorem Workload.dispensesFrom_and_holdsFrom_fromFive :
    ∃ result last history,
      ∃ shift : Shift (Fin Run.ofOrderedFromFive.benchmark.threads) Xoshiro Store Unit,
      Workload.ofProperties orderedFromFive = .ok ofOrderedFromFive ∧
      Properties.orDefault Properties.getNatural orderedFromFive "insertstart" 0 = .ok 5 ∧
      Properties.orDefault Properties.getText orderedFromFive "insertorder" "hashed" =
        .ok "ordered" ∧
      Run.ofOrderedFromFive.runPhase .still 0 .load 3 = .ok (result, last) ∧
      Shift.Course (Run.ofOrderedFromFive.shift 0 .load 3) history shift ∧ shift.Over ∧
      DispensesFrom (Run.ofOrderedFromFive.shift 0 .load 3).crew history 5 2 ∧
      result.report.executed = 2 ∧
      ∃ tables : Tables, last.world.store = .ordered tables ∧
        tables.HoldsFrom ofOrderedFromFive.toPlan 5 2 := by
  have accepted : Workload.ofProperties orderedFromFive = .ok ofOrderedFromFive := rfl
  have completes : (Run.ofOrderedFromFive.runPhase .still 0 .load 3).toOption.isSome := by
    decide +kernel
  rcases Option.isSome_iff_exists.mp completes with ⟨⟨result, last⟩, done⟩
  have ran := toOption_eq_some_iff.mp done
  rcases Run.course_of_runPhase ran with ⟨history, shift, course, ended, rfl, _, same⟩
  rcases Workload.dispensesFrom_and_holdsFrom accepted rfl with ⟨dispenses, holds⟩
  have counted : inserts history = 2 * (3 / 2) := course.interleaving.inserts_of_load
    (Crew.opened_begins .load 2 3 _ _) (course.finished ended)
  have dispensed := dispenses (Fin 2) Xoshiro Store Unit _ _ history 2 rfl course.interleaving
    (Nat.le_of_eq counted.symm) (by decide)
  rcases holds rfl Xoshiro Run.ofOrderedFromFive.benchmark 3 _ history shift "btreemap" _ course
    ended (by decide) with ⟨executed, tables, stored, loaded⟩
  rw [executed] at loaded
  refine ⟨result, _, history, shift, accepted, rfl, rfl, ran, course, ended, dispensed, ?_,
    tables, stored, loaded⟩
  rw [same]
  exact executed

end StoreBench
