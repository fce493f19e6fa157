import StoreBench.Proofs.Benchmark.LoadedTable
import StoreBench.Proofs.Interleaving.Schedules
import StoreBench.Proofs.Store.Revised

namespace StoreBench

/-! Records stay complete. Inserts write all fields of a record, and updates only overwrite fields
that every record has. So whatever the workers do, all records of a store that was empty at first
are in the table of the workload and have its fields, no more and no fewer. What is read is
therefore the whole record or the one field that was asked for. -/

/-! ## Complete fields -/

namespace Fields

def Complete (plan : Plan) (fields : Fields) : Prop :=
  ∀ name, name ∈ fields ↔ name ∈ plan.fieldNames

variable {plan : Plan} {fields : Fields} {values : Record} {sizes : Sizes}

theorem complete_ofRecord (names : values.map Prod.fst = plan.fieldNames) :
    (ofRecord values).Complete plan := by
  intro name
  rw [mem_ofRecord, names]

theorem Complete.overwrite (complete : fields.Complete plan)
    (known : ∀ name ∈ values.map Prod.fst, name ∈ plan.fieldNames) :
    (fields.overwrite values).Complete plan := by
  intro name
  rw [mem_overwrite, complete name]
  exact ⟨fun either => either.elim id (known name), .inl⟩

theorem Complete.size_eq (complete : fields.Complete plan) :
    fields.size = plan.fieldCount.toNat := by
  rw [size_eq_length plan.nodup_fieldNames complete, Plan.fieldNames, List.length_map,
    List.length_range]

theorem Complete.project_all (complete : fields.Complete plan) :
    ((fields.project []).map Prod.fst).Perm plan.fieldNames := by
  have keys : (fields.project []).map Prod.fst = fields.keys :=
    Std.TreeMap.map_fst_toList_eq_keys
  rw [keys]
  exact (List.perm_ext_iff_of_nodup Std.TreeMap.nodup_keys plan.nodup_fieldNames).mpr
    fun name => Std.TreeMap.mem_keys.trans (complete name)

theorem Complete.project_one (complete : fields.Complete plan) {name : String}
    (known : name ∈ plan.fieldNames) : ∃ value, fields.project [name] = [(name, value)] := by
  have member := (complete name).mpr known
  rw [Std.TreeMap.mem_iff_isSome_getElem?] at member
  rcases Option.isSome_iff_exists.mp member with ⟨value, found⟩
  exact ⟨value, by simp [project, found]⟩

end Fields

/-! ## Requests -/

theorem Plan.mem_fieldNames {plan : Plan} {index : Nat} (small : index < plan.fieldCount.toNat) :
    fieldName index ∈ plan.fieldNames :=
  List.mem_map_of_mem (List.mem_range.mpr small)

theorem Plan.Writes.mem_fieldNames {plan : Plan} {sizes : Sizes} {values : Record}
    (writes : plan.Writes sizes values) : ∀ name ∈ values.map Prod.fst, name ∈ plan.fieldNames := by
  intro name member
  unfold Writes at writes
  split at writes
  · exact writes.names ▸ member
  · rcases writes with ⟨index, small, value, _, rfl⟩
    rw [List.map_singleton, List.mem_singleton] at member
    exact member ▸ Plan.mem_fieldNames small

/-- What is read from a record: all fields in some order, or the one that was asked for. -/
def Record.Answers (plan : Plan) (wanted : List String) (record : Record) : Prop :=
  if wanted = [] then
    record.length = plan.fieldCount.toNat ∧ (record.map Prod.fst).Perm plan.fieldNames
  else ∃ name value, name ∈ plan.fieldNames ∧ wanted = [name] ∧ record = [(name, value)]

theorem Fields.Complete.answers {plan : Plan} {fields : Fields} {wanted : List String}
    (complete : fields.Complete plan) (wants : plan.Wants wanted) :
    (fields.project wanted).Answers plan wanted := by
  unfold Plan.Wants at wants
  split at wants
  · subst wants
    have all := complete.project_all
    have count := all.length_eq
    rw [List.length_map, Plan.fieldNames, List.length_map, List.length_range] at count
    exact ⟨count, all⟩
  · rcases wants with ⟨index, small, rfl⟩
    have known := Plan.mem_fieldNames small
    rcases complete.project_one known with ⟨value, one⟩
    exact ⟨_, value, known, rfl, one⟩

/-! ## Stores -/

def Store.Complete (plan : Plan) (store : Store) : Prop :=
  ∀ table key fields, store.contents table key = some fields →
    table = plan.table ∧ fields.Complete plan

theorem Store.Complete.answer {plan : Plan} {store : Store} {sizes : Sizes} {last : UInt64}
    {request : Request} (complete : store.Complete plan)
    (formed : request.WellFormed plan sizes last) : (store.answer request).2.Complete plan := by
  intro table key fields found
  rcases store.contents_answer_cases request table key with same | ⟨target, revised⟩
  · exact complete table key fields (same ▸ found)
  · rw [revised] at found
    cases request with
    | read => exact complete table key fields found
    | insert =>
        cases target
        cases found
        exact ⟨formed.addressed.1, Fields.complete_ofRecord formed.filled.names⟩
    | update =>
        cases target
        rcases Option.map_eq_some_iff.mp found with ⟨earlier, before, rfl⟩
        rcases complete table key earlier before with ⟨own, all⟩
        exact ⟨own, all.overwrite formed.filled.mem_fieldNames⟩
    | scan => cases target
    | delete => cases formed.filled

theorem Store.Complete.read {plan : Plan} {store : Store} {sizes : Sizes} {last : UInt64}
    {table key : String} {wanted : List String} (complete : store.Complete plan)
    (keeping : store.Keeping) (formed : (Request.read table key wanted).WellFormed plan sizes last)
    (successful : (store.answer (.read table key wanted)).1.status = .ok) :
    ∃ record, (store.answer (.read table key wanted)).1.records = [record] ∧
      record.Answers plan wanted := by
  rw [keeping.answer_eq_reply rfl] at successful ⊢
  cases found : store.contents table key with
  | none => simp [found, Request.reply, Answer.only] at successful
  | some fields =>
      exact ⟨_, rfl, (complete table key fields found).2.answers formed.filled⟩

/-! ## Runs -/

namespace Interleaving

variable {ι σ S H : Type} [DecidableEq ι] [WordSource σ] [Backend S H] {properties : Properties}

theorem wellFormed_of_asked {first crew next : Crew ι σ S H} {history : List (Event ι)}
    {name : ι} {phase : Phase} {transaction : Transaction} {request : Request} {answer : Answer}
    {sizes : Sizes} (configured : Workload.Configured properties first.world.workload)
    (given : sizes.Of properties) (ready : ∀ name, (first.worker name).activity = .ready)
    (run : Interleaving first history crew)
    (step : Step crew (.asked name phase transaction request answer) next) :
    ∃ last, request.WellFormed first.world.workload.toPlan sizes last := by
  rcases step.drew_of_asked (run.traced ready) with ⟨drew, member⟩
  rcases run.run_of_drew .start drew with ⟨before, after, source, rest, reached, drawn⟩
  exact ⟨_, Workload.wellFormed_of_drawing configured given reached drawn member⟩

end Interleaving

section Complete

variable {ι σ : Type} [DecidableEq ι] [WordSource σ] {properties : Properties}
variable {first last next : Crew ι σ Store Unit} {history : List (Event ι)} {event : Event ι}

theorem Step.answer_eq {crew : Crew ι σ Store Unit} {name : ι} {phase : Phase}
    {transaction : Transaction} {request : Request} {answer : Answer}
    (step : Step crew (.asked name phase transaction request answer) next) :
    answer = (crew.world.store.answer request).1 := by
  cases step with
  | askEarlier asking answered | askDeciding asking answered =>
      exact (Session.ask_store answered).1

theorem Step.complete (configured : Workload.Configured properties first.world.workload)
    (ready : ∀ name, (first.worker name).activity = .ready)
    (run : Interleaving first history last) (step : Step last event next)
    (keeping : last.world.store.Keeping)
    (complete : last.world.store.Complete first.world.workload.toPlan) :
    next.world.store.Keeping ∧ next.world.store.Complete first.world.workload.toPlan := by
  rcases Sizes.exists_of configured with ⟨sizes, given⟩
  cases step with
  | draw here drawn =>
      rcases Session.draw_eq_ok_iff.mp drawn with ⟨workload, source, made, rfl, rfl⟩
      exact ⟨keeping, complete⟩
  | askEarlier asking answered =>
      rcases run.wellFormed_of_asked configured given ready (.askEarlier asking answered) with
        ⟨_, formed⟩
      rw [Crew.move_world, (Session.ask_store answered).2]
      exact ⟨keeping.answer _, complete.answer formed⟩
  | askDeciding asking answered =>
      rcases run.wellFormed_of_asked configured given ready (.askDeciding asking answered) with
        ⟨_, formed⟩
      rw [Crew.move_world, (Session.ask_store answered).2]
      exact ⟨keeping.answer _, complete.answer formed⟩
  | settle answered settled => exact ⟨keeping, complete⟩

theorem Interleaving.complete (configured : Workload.Configured properties first.world.workload)
    (ready : ∀ name, (first.worker name).activity = .ready)
    (keeping : first.world.store.Keeping)
    (complete : first.world.store.Complete first.world.workload.toPlan)
    (run : Interleaving first history last) :
    last.world.store.Keeping ∧ last.world.store.Complete first.world.workload.toPlan := by
  induction run with
  | start => exact ⟨keeping, complete⟩
  | step earlier next induction =>
      exact next.complete configured ready earlier induction.1 induction.2

inductive Store.Fresh : Store → Prop where
  | ordered : Fresh (.ordered ∅)
  | sharded (hash : String → UInt64) (count : Nat) (positive : 0 < count) :
      Fresh (.sharded (.make hash count positive))

theorem Store.Fresh.keeping {store : Store} (fresh : store.Fresh) : store.Keeping := by
  cases fresh <;> trivial

theorem Store.Fresh.complete {store : Store} (fresh : store.Fresh) (plan : Plan) :
    store.Complete plan := by
  intro table key fields found
  cases fresh with
  | ordered => simp [contents_ordered_empty] at found
  | sharded => simp [contents_sharded_make] at found

/-- However many workers load and run transactions on a store that keeps records, and in whatever
order they take their steps, the store holds nothing but records of the configured table, each
with all configured fields and no others. So every read that is answered with success finds one
record: with all fields if all are asked for, and else with the one field that is asked for. -/
theorem Interleaving.records_complete
    (accepted : Workload.ofProperties properties = .ok first.world.workload)
    (ready : ∀ name, (first.worker name).activity = .ready) (fresh : first.world.store.Fresh)
    (run : Interleaving first history last) :
    (∀ table key fields, last.world.store.contents table key = some fields →
        table = first.world.workload.table ∧
          fields.size = first.world.workload.fieldCount.toNat ∧
          ∀ name, name ∈ fields ↔
            ∃ index < first.world.workload.fieldCount.toNat, name = "field" ++ toString index) ∧
      ∀ name phase transaction table key wanted answer,
        .asked name phase transaction (.read table key wanted) answer ∈ history →
        answer.status = .ok →
        ∃ record, answer.records = [record] ∧
          record.Answers first.world.workload.toPlan wanted := by
  have configured := Workload.configured_of_ofProperties accepted
  have whole := fresh.complete first.world.workload.toPlan
  constructor
  · intro table key fields found
    rcases (run.complete configured ready fresh.keeping whole).2 table key fields found with
      ⟨own, complete⟩
    refine ⟨own, complete.size_eq, fun name => (complete name).trans ?_⟩
    simp only [Plan.fieldNames, List.mem_map, List.mem_range, Plan.fieldName, eq_comm]
  · intro name phase transaction table key wanted answer asked successful
    rcases List.append_of_mem asked with ⟨past, later, rfl⟩
    rcases run.at_event with ⟨before, after, earlier, step⟩
    rcases earlier.complete configured ready fresh.keeping whole with ⟨keeping, complete⟩
    rcases Sizes.exists_of configured with ⟨sizes, given⟩
    rcases earlier.wellFormed_of_asked configured given ready step with ⟨_, formed⟩
    rw [step.answer_eq] at successful ⊢
    exact complete.read keeping formed successful

end Complete

/-! Two workers and a record of two fields. One of them loads the record and updates a field; the
other one reads all fields. The greatest word makes a worker choose the update. -/

def Workload.pairOfFields : Properties where
  table := [("recordcount", .integer 1), ("fieldcount", .integer 2), ("fieldlength", .integer 1),
    ("readproportion", .float 0.5), ("updateproportion", .float 0.5)]

def Workload.ofPairOfFields : Workload :=
  { ofOnePair with
    fieldCount := 2
    operations := ⟨[(.read, 0.5), (.update, 0.5)], 1, none⟩
    fields := { ofOnePair.fields with upper := 1, lower_le_upper := by decide } }

def Crew.updaterAndReader : Crew (Fin 2) Script Store Unit where
  world := ⟨.ofPairOfFields, .ordered ∅⟩
  worker name :=
    ⟨⟨.ofList (if name.val = 0 then [0, 0, 18446744073709551615, 0] else [0]), ()⟩,
      if name.val = 0 then [.load, .transactions] else [.transactions], .ready⟩

/-- The update of one field is answered while the read is under way, and the read finds both. -/
theorem Interleaving.records_complete_updaterAndReader :
    Workload.ofProperties Workload.pairOfFields = .ok Crew.updaterAndReader.world.workload ∧
      (∀ name, (Crew.updaterAndReader.worker name).activity = .ready) ∧
      Crew.updaterAndReader.world.store.Fresh ∧
      ∃ history last phase transaction key answer record,
        Interleaving Crew.updaterAndReader history last ∧
        history.map Event.worker = [0, 0, 0, 0, 1, 0, 1] ∧
        .asked 1 phase transaction (.read "usertable" key []) answer ∈ history ∧
        answer.status = .ok ∧ answer.records = [record] ∧
        (record.map Prod.fst).Perm ["field0", "field1"] := by
  have accepted : Workload.ofProperties Workload.pairOfFields =
      .ok Crew.updaterAndReader.world.workload := rfl
  have ready : ∀ name, (Crew.updaterAndReader.worker name).activity = .ready := fun _ => rfl
  have moved : ((Crew.updaterAndReader.follow [0, 0, 0, 0, 1, 0]).bind fun (earlier, before) =>
      (before.advance 1).map fun (event, _) =>
        ((earlier ++ [event]).map Event.worker, event.request?,
          (before.world.store.answer (.read "usertable"
            (Workload.ofPairOfFields.keyName 0) [])).1.status)) =
      some ([0, 0, 0, 0, 1, 0, 1],
        some (.read "usertable" (Workload.ofPairOfFields.keyName 0) []), .ok) := by
    decide +kernel
  rcases Option.bind_eq_some_iff.mp moved with ⟨⟨history, before⟩, followed, moved⟩
  rcases Option.map_eq_some_iff.mp moved with ⟨⟨event, last⟩, advanced, equal⟩
  simp only [Prod.mk.injEq] at equal
  rcases equal with ⟨overlap, asked, successful⟩
  have step := step_iff_advance.mpr ⟨1, advanced⟩
  have run := (Interleaving.start.of_follow followed).step step
  cases event with
  | drew | settled => cases asked
  | asked name phase transaction request answer =>
      cases asked
      have own := step.answer_eq
      rw [← own] at successful
      have reader : name = 1 := by
        simpa [Event.worker] using congrArg List.getLast? overlap
      subst reader
      have member := List.mem_append_right ([] ++ history) (List.mem_singleton_self
        (Event.asked 1 phase transaction
          (.read "usertable" (Workload.ofPairOfFields.keyName 0) []) answer))
      rcases (records_complete accepted ready .ordered run).2 _ _ _ _ _ _ _ member successful with
        ⟨record, found, _, all⟩
      exact ⟨accepted, ready, .ordered, _, last, phase, transaction, _, answer, record, run,
        overlap, member, successful, found, all⟩

end StoreBench
