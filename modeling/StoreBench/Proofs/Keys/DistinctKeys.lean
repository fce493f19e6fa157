import StoreBench.Proofs.Benchmark.LoadedTable
import StoreBench.Proofs.Interleaving.NewRecords
import StoreBench.Proofs.Keys.Hashing
import StoreBench.Proofs.Store.Revised

namespace StoreBench

/-! No insert meets the record of another one. Different numbers have different keys, as long as
they are below the bound on item counts or are not hashed. Every insert of a run has a number of
its own, so the keys of all inserts are different, and in a store that was empty at first, an
insert finds no record under its key. -/

/-! ## Keys -/

/-- The least number that the keys of smaller numbers may be confused with. -/
def KeyOrder.bound : KeyOrder → Nat
  | .hashed => Zipfian.itemLimit.toNat
  | .ordered => UInt64.size

theorem KeyOrder.bound_le (order : KeyOrder) : order.bound ≤ 2 ^ 64 := by
  cases order <;> decide

namespace Plan

variable {plan : Plan}

theorem keyName_injective_of_ordered (ordered : plan.keyOrder = .ordered) :
    Function.Injective plan.keyName := by
  intro first second same
  rw [keyName_of_ordered ordered, keyName_of_ordered ordered] at same
  exact UInt64.toNat_inj.mp (shown_injective "user" same)

theorem keyName_of_hashed (hashed : plan.keyOrder = .hashed) (number : UInt64) :
    plan.keyName number = "user" ++ toString (hashWord number).toNat := by
  rw [keyName, hashed]

theorem keyName_injOn_of_hashed (hashed : plan.keyOrder = .hashed) :
    Set.InjOn plan.keyName {number | number < Zipfian.itemLimit} := by
  intro first firstSmall second secondSmall same
  rw [keyName_of_hashed hashed, keyName_of_hashed hashed] at same
  exact hashWord_injOn firstSmall secondSmall
    (UInt64.toNat_inj.mp (shown_injective "user" same))

theorem keyName_injOn (plan : Plan) :
    Set.InjOn plan.keyName {number | number.toNat < plan.keyOrder.bound} := by
  cases order : plan.keyOrder with
  | ordered => exact (keyName_injective_of_ordered order).injOn
  | hashed =>
      intro first firstSmall second secondSmall
      exact keyName_injOn_of_hashed order (UInt64.lt_iff_toNat_lt.mpr firstSmall)
        (UInt64.lt_iff_toNat_lt.mpr secondSmall)

end Plan

/-! ## Inserts of a run -/

def Request.inserted? : Request → Option String
  | .insert _ key _ => some key
  | _ => none

def keysInserted {ι : Type} (history : List (Event ι)) : List String :=
  (requestsAsked history).filterMap Request.inserted?

theorem keysInserted_concat {ι : Type} (history : List (Event ι)) (event : Event ι) :
    keysInserted (history ++ [event]) =
      keysInserted history ++ (event.request?.bind Request.inserted?).toList := by
  simp only [keysInserted, requestsAsked, List.filterMap_append]
  cases event with
  | drew | settled => rfl
  | asked _ _ _ request _ => cases request <;> rfl

def Activity.inserting? : Activity → Option String
  | .asking _ transaction _ => transaction.deciding.inserted?
  | _ => none

section Inserts

variable {ι σ S H : Type} [DecidableEq ι] [WordSource σ] [Backend S H]
variable {first crew next last : Crew ι σ S H} {history : List (Event ι)} {event : Event ι}
variable {name : ι} {key : String}

theorem Drawn.inserted? {before after : Workload} {phase : Phase} {transaction : Transaction}
    (drawn : Drawn before phase transaction after) :
    (∀ request ∈ transaction.earlier, request.inserted? = none) ∧
      transaction.deciding.inserted? =
        if transaction.operation = .insert then some (before.keyName before.keySequence.upcoming)
        else none := by
  cases drawn <;> simp [Request.inserted?]

theorem Step.inserting_cases (step : Step crew event next)
    (inserting : (next.worker name).activity.inserting? = some key) :
    (crew.worker name).activity.inserting? = some key ∨
      event.worker = name ∧ event.isInsert ∧
        key = crew.world.workload.keyName crew.upcoming := by
  by_cases same : event.worker = name
  · subst same
    cases step with
    | draw ready drawn =>
        simp only [Event.worker, Crew.move_worker_same, Activity.inserting?] at inserting
        rw [(Step.draw ready drawn).drawn.inserted?.2, Option.ite_none_right_eq_some,
          Option.some_inj] at inserting
        exact .inr ⟨rfl, decide_eq_true inserting.1, inserting.2.symm⟩
    | askEarlier asking answered =>
        simp only [Event.worker, Crew.move_worker_same] at inserting
        simp only [Event.worker, asking]
        exact .inl inserting
    | askDeciding asking answered | settle answered settled =>
        simp only [Event.worker, Crew.move_worker_same] at inserting
        cases inserting
  · rw [step.worker_of_other same] at inserting
    exact .inl inserting

theorem Step.inserting_of_asked (ready : ∀ name, (first.worker name).activity = .ready)
    (run : Interleaving first history crew) (step : Step crew event next)
    (asked : event.request?.bind Request.inserted? = some key) :
    (crew.worker event.worker).activity.inserting? = some key ∧
      (next.worker event.worker).activity.inserting? = none := by
  cases step with
  | draw | settle => cases asked
  | @askEarlier name _ _ phase _ transaction request _ _ _ asking answered =>
      -- What comes before the deciding request is no insert.
      have traced := run.traced ready name
      simp only [asking] at traced
      rcases run.drawn_of_drew traced.1 with ⟨_, _, drawn, _⟩
      have none := drawn.inserted?.1 request (traced.2 (List.mem_cons_self ..))
      cases none.symm.trans asked
  | askDeciding asking answered =>
      simp only [Event.worker, asking, Crew.move_worker_same]
      exact ⟨asked, rfl⟩

/-- The keys of the inserts so far: those that were asked for are different from each other and
from those that are still to come, and all of them belong to numbers that were handed out. -/
structure Crew.Apart (first : Crew ι σ S H) (history : List (Event ι)) (crew : Crew ι σ S H) :
    Prop where
  distinct : (keysInserted history).Nodup
  unasked : ∀ name key, (crew.worker name).activity.inserting? = some key →
    key ∉ keysInserted history
  unshared : ∀ name other key, (crew.worker name).activity.inserting? = some key →
    (crew.worker other).activity.inserting? = some key → name = other
  numbered : ∀ key, key ∈ keysInserted history ∨
      (∃ name, (crew.worker name).activity.inserting? = some key) →
    ∃ number ∈ numbersFrom first.upcoming (inserts history),
      key = first.world.workload.keyName number

theorem Crew.Apart.fresh (apart : Apart first history crew)
    (run : Interleaving first history crew)
    (room : first.upcoming.toNat + inserts history < first.world.workload.keyOrder.bound) :
    crew.world.workload.keyName crew.upcoming ∉ keysInserted history ∧
      ∀ name, (crew.worker name).activity.inserting? ≠
        some (crew.world.workload.keyName crew.upcoming) := by
  have bound := first.world.workload.keyOrder.bound_le
  have new : ¬∃ number ∈ numbersFrom first.upcoming (inserts history),
      crew.world.workload.keyName crew.upcoming = first.world.workload.keyName number := by
    rintro ⟨number, member, same⟩
    have between := (mem_numbersFrom_iff_of_room (by omega)).mp member
    have upcoming : crew.upcoming.toNat = first.upcoming.toNat + inserts history := by
      rw [run.upcoming_eq, UInt64.toNat_add, UInt64.toNat_ofNat']
      omega
    rw [run.toPlan_eq] at same
    have equal := first.world.workload.keyName_injOn
      (show crew.upcoming.toNat < _ by omega) (show number.toNat < _ by omega) same
    rw [equal] at upcoming
    omega
  exact ⟨fun asked => new (apart.numbered _ (.inl asked)),
    fun name inserting => new (apart.numbered _ (.inr ⟨name, inserting⟩))⟩

theorem Crew.Apart.step (apart : Apart first history crew)
    (ready : ∀ name, (first.worker name).activity = .ready)
    (run : Interleaving first history crew) (step : Step crew event next)
    (room : first.upcoming.toNat + inserts (history ++ [event]) ≤
      first.world.workload.keyOrder.bound) :
    Apart first (history ++ [event]) next := by
  -- The number of an insert that is drawn now has not been handed out before.
  have fresh (isInsert : event.isInsert) := apart.fresh run (by
    rw [inserts_concat, if_pos isInsert] at room
    omega)
  have asked (key : String) (request : event.request?.bind Request.inserted? = some key) :=
    step.inserting_of_asked ready run request
  have mem_keys (key : String) : key ∈ keysInserted (history ++ [event]) ↔
      key ∈ keysInserted history ∨ event.request?.bind Request.inserted? = some key := by
    rw [keysInserted_concat, List.mem_append, Option.mem_toList]
  refine ⟨?_, ?_, ?_, ?_⟩
  · rw [keysInserted_concat]
    cases request : event.request?.bind Request.inserted? with
    | none => simpa using apart.distinct
    | some key =>
        exact List.nodup_append.mpr ⟨apart.distinct, List.nodup_singleton key, by
          rintro other member _ here rfl
          cases List.mem_singleton.mp here
          exact apart.unasked _ _ (asked _ request).1 member⟩
  · intro name key inserting
    rw [mem_keys, not_or]
    rcases step.inserting_cases inserting with before | ⟨rfl, isInsert, rfl⟩
    · refine ⟨apart.unasked name key before, fun request => ?_⟩
      rw [← apart.unshared _ _ key (asked key request).1 before, (asked key request).2] at inserting
      cases inserting
    · refine ⟨(fresh isInsert).1, fun request => (fresh isInsert).2 _ (asked _ request).1⟩
  · intro name other key inserting shared
    rcases step.inserting_cases inserting with before | ⟨here, isInsert, rfl⟩
    · rcases step.inserting_cases shared with sharedBefore | ⟨_, isInsert, rfl⟩
      · exact apart.unshared name other key before sharedBefore
      · exact absurd before ((fresh isInsert).2 name)
    · rcases step.inserting_cases shared with sharedBefore | ⟨there, _, _⟩
      · exact absurd sharedBefore ((fresh isInsert).2 other)
      · exact here.symm.trans there
  · intro key known
    have before (known : key ∈ keysInserted history ∨
        ∃ name, (crew.worker name).activity.inserting? = some key) :
        ∃ number ∈ numbersFrom first.upcoming (inserts (history ++ [event])),
          key = first.world.workload.keyName number := by
      rcases apart.numbered key known with ⟨number, member, own⟩
      exact ⟨number, mem_numbersFrom_concat history event member, own⟩
    rcases known with member | ⟨name, inserting⟩
    · rcases (mem_keys key).mp member with known | request
      · exact before (.inl known)
      · exact before (.inr ⟨_, (asked key request).1⟩)
    · rcases step.inserting_cases inserting with known | ⟨_, isInsert, rfl⟩
      · exact before (.inr ⟨name, known⟩)
      · refine ⟨crew.upcoming, ?_, by rw [run.toPlan_eq]⟩
        rw [inserts_concat, if_pos isInsert, numbersFrom_succ, ← run.upcoming_eq]
        exact List.mem_append_right _ (List.mem_singleton_self _)

theorem Interleaving.apart (ready : ∀ name, (first.worker name).activity = .ready)
    (run : Interleaving first history last)
    (room : first.upcoming.toNat + inserts history ≤ first.world.workload.keyOrder.bound) :
    Crew.Apart first history last := by
  induction run with
  | start =>
      have none (name : ι) : (first.worker name).activity.inserting? = none := by
        rw [ready name]
        rfl
      constructor <;> simp [none, keysInserted, requestsAsked]
  | @step history event middle last earlier step induction =>
      have fewer : inserts history ≤ inserts (history ++ [event]) := by
        rw [inserts_concat]
        omega
      exact (induction (by omega)).step ready earlier step room

end Inserts

/-! ## Records in the way -/

section Stored

variable {ι σ : Type} [DecidableEq ι] [WordSource σ]
variable {first crew next last : Crew ι σ Store Unit} {history : List (Event ι)}
variable {event : Event ι} {table key : String}

theorem Store.has_of_answer {store : Store} {request : Request}
    (has : (store.answer request).2.Has table key) :
    store.Has table key ∨ request.inserted? = some key := by
  rw [has_iff] at has ⊢
  rcases store.contents_answer_cases request table key with same | ⟨target, revised⟩
  · exact .inl (same ▸ has)
  · rw [revised] at has
    cases request with
    | read => exact .inl has
    | update => exact .inl (by simpa [Request.revise] using has)
    | insert =>
        cases target
        exact .inr rfl
    | scan => cases target
    | delete => cases has

theorem Step.has_cases (step : Step crew event next) (has : next.world.store.Has table key) :
    crew.world.store.Has table key ∨ event.request?.bind Request.inserted? = some key := by
  cases step with
  | draw ready drawn =>
      rcases Session.draw_eq_ok_iff.mp drawn with ⟨workload, source, made, rfl, rfl⟩
      exact .inl has
  | askEarlier asking answered | askDeciding asking answered =>
      rw [Crew.move_world, (Session.ask_store answered).2] at has
      exact Store.has_of_answer has
  | settle answered settled => exact .inl has

theorem Interleaving.has_cases (run : Interleaving first history last)
    (has : last.world.store.Has table key) :
    first.world.store.Has table key ∨ key ∈ keysInserted history := by
  induction run with
  | start => exact .inl has
  | step earlier step induction =>
      rw [keysInserted_concat, List.mem_append, Option.mem_toList]
      rcases step.has_cases has with before | here
      · exact (induction before).imp_right .inl
      · exact .inr (.inr here)

theorem Interleaving.insert_meets_none (ready : ∀ name, (first.worker name).activity = .ready)
    (empty : ∀ table key, ¬first.world.store.Has table key)
    (run : Interleaving first history last)
    (room : first.upcoming.toNat + inserts history ≤ first.world.workload.keyOrder.bound)
    (step : Step last event next) (asked : event.request?.bind Request.inserted? = some key) :
    ¬last.world.store.Has table key := by
  intro has
  have member := (run.has_cases has).resolve_left (empty table key)
  exact (run.apart ready room).unasked _ key (step.inserting_of_asked ready run asked).1 member

end Stored

/-- Words below the bound on item counts have different hashes, so different numbers have
different keys there when keys are hashed, and all numbers have different keys when they are in
order. So as long as the numbers that are handed out stay in this range, no insert of a run, in
whatever phase and by whichever worker, meets a record that another one has left in the store. -/
theorem Plan.keyName_injOn_and_insert_meets_none :
    Set.InjOn hashWord {number | number < Zipfian.itemLimit} ∧
      (∀ plan : Plan, plan.keyOrder = .hashed →
        Set.InjOn plan.keyName {number | number < Zipfian.itemLimit}) ∧
      (∀ plan : Plan, plan.keyOrder = .ordered → Function.Injective plan.keyName) ∧
      ∀ (ι σ : Type) [DecidableEq ι] [WordSource σ] (first last next : Crew ι σ Store Unit)
        (history : List (Event ι)) (name : ι) (phase : Phase) (transaction : Transaction)
        (table key : String) (values : Record) (answer : Answer),
      (∀ name, (first.worker name).activity = .ready) →
      (∀ table key, ¬first.world.store.Has table key) →
      Interleaving first history last →
      Step last (.asked name phase transaction (.insert table key values) answer) next →
      first.upcoming.toNat + inserts history ≤ first.world.workload.keyOrder.bound →
      ¬last.world.store.Has table key := by
  refine ⟨hashWord_injOn, fun _ => Plan.keyName_injOn_of_hashed,
    fun _ => Plan.keyName_injective_of_ordered, ?_⟩
  intro ι σ _ _ first last next history name phase transaction table key values answer ready
    empty run step room
  exact run.insert_meets_none ready empty room step rfl

/-- Two workers load records under hashed keys. When the second one asks for its insert, the record
of the first one is in the store, and there is none under the key of the second one. -/
theorem Plan.keyName_injOn_and_insert_meets_none_twoLoaders :
    hashWord 4294967296 ≠ hashWord 1099511627775 ∧
      Workload.ofThreeRecords.keyOrder = .hashed ∧
      Workload.ofThreeRecords.keyName 4294967296 ≠ Workload.ofThreeRecords.keyName 1099511627775 ∧
      Workload.ofOrderedFromFive.keyOrder = .ordered ∧
      Workload.ofOrderedFromFive.keyName 0 ≠
        Workload.ofOrderedFromFive.keyName 18446744073709551615 ∧
      ∃ history last next name phase transaction values answer,
        Interleaving Crew.twoLoaders history last ∧
        Step last (.asked name phase transaction
          (.insert "usertable" (Workload.ofThreeRecords.keyName 1) values) answer) next ∧
        last.world.Holds 0 ∧ ¬last.world.Holds 1 := by
  rcases keyName_injOn_and_insert_meets_none with ⟨hashes, hashed, ordered, meets⟩
  have low : (4294967296 : UInt64) ∈ {number : UInt64 | number < Zipfian.itemLimit} :=
    UInt64.lt_iff_toNat_lt.mpr (by decide)
  have high : (1099511627775 : UInt64) ∈ {number : UInt64 | number < Zipfian.itemLimit} :=
    UInt64.lt_iff_toNat_lt.mpr (by decide)
  refine ⟨hashes.ne low high (by decide), rfl, (hashed _ rfl).ne low high (by decide), rfl,
    (ordered _ rfl).ne (by decide), ?_⟩
  have moved : ((Crew.twoLoaders.follow [0, 1, 0]).bind fun (history, last) =>
      (last.advance 1).map fun (event, _) =>
        (event.request?, inserts history, (last.world.store.contents last.world.workload.table
          (last.world.workload.keyName 0)).isSome)) =
      some (some (.insert "usertable" (Workload.ofThreeRecords.keyName 1) [("field0", "!")]), 2,
        true) := by
    decide +kernel
  rcases Option.bind_eq_some_iff.mp moved with ⟨⟨history, last⟩, followed, moved⟩
  rcases Option.map_eq_some_iff.mp moved with ⟨⟨event, next⟩, advanced, equal⟩
  simp only [Prod.mk.injEq] at equal
  rcases equal with ⟨asked, drawn, held⟩
  have run := Interleaving.start.of_follow followed
  have step := step_iff_advance.mpr ⟨1, advanced⟩
  cases event with
  | drew | settled => cases asked
  | asked name phase transaction request answer =>
      cases asked
      refine ⟨history, last, next, name, phase, transaction, _, answer, run, step,
        Store.has_iff.mpr held, ?_⟩
      have room : inserts history ≤ 2 := drawn.le
      rw [World.Holds, run.toPlan_eq]
      exact meets _ _ _ last next history name phase transaction _ _ _ answer (fun _ => rfl)
        (fun table key => Store.not_has_ordered_empty table key) run step
        (Nat.le_trans (Nat.add_le_add_left room _) (by decide))

end StoreBench
