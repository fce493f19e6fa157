import StoreBench.Proofs.Configured
import StoreBench.Proofs.Interleaving.Dispensed

namespace StoreBench

/-! The frontier after inserts that have all succeeded. It starts at the number of records,
as if these were numbered from zero, while the key sequence starts where the configuration
says. So the frontier catches up with the inserts if both start together, and else it never
moves. -/

/-! ## Frontiers and consecutive numbers -/

theorem lt_of_mem_numbersFrom_add {start records number : UInt64} {count : Nat}
    (late : start ≠ 0) (room : start.toNat + records.toNat + count ≤ 2 ^ 64)
    (member : number ∈ numbersFrom (start + records) count) : records < number := by
  rcases mem_numbersFrom_iff.mp member with ⟨index, early, rfl⟩
  have started := UInt64.pos_iff_ne_zero.mpr late
  rw [UInt64.lt_iff_toNat_lt, UInt64.toNat_zero] at started
  rw [UInt64.lt_iff_toNat_lt, UInt64.toNat_add, UInt64.toNat_add, UInt64.toNat_ofNat']
  omega

namespace Frontier.Covers

variable {start records : UInt64} {count : Nat} {frontier : Frontier}

theorem congr {known other : UInt64 → Prop} (covers : Covers start known frontier)
    (agree : ∀ number, known number ↔ other number) : Covers start other frontier := by
  rwa [← funext fun number => propext (agree number)]

theorem room_of_numbersFrom (covers : Covers start (· ∈ numbersFrom start count) frontier) :
    start.toNat + count < 2 ^ 64 := by
  -- The frontier stands before an unknown number, so not all up to the greatest word are known.
  by_contra full
  have lower := UInt64.le_iff_toNat_le.mp covers.start_le
  have bound := frontier.limit.upcoming.toNat_lt
  exact covers.upcoming_unknown (mem_numbersFrom_of_between lower (by omega))

theorem upcoming_of_numbersFrom (covers : Covers start (· ∈ numbersFrom start count) frontier) :
    frontier.limit.upcoming.toNat = start.toNat + count := by
  have room := covers.room_of_numbersFrom
  have known (number : UInt64) :
      number ∈ numbersFrom start count ↔
        start.toNat ≤ number.toNat ∧ number.toNat < start.toNat + count :=
    mem_numbersFrom_iff_of_room (Nat.le_of_lt room)
  have next : (UInt64.ofNat (start.toNat + count)).toNat = start.toNat + count :=
    UInt64.toNat_ofNat_of_lt' room
  have lower := UInt64.le_iff_toNat_le.mp covers.start_le
  have unknown := mt (known _).mpr covers.upcoming_unknown
  have upper : frontier.limit.upcoming ≤ .ofNat (start.toNat + count) := by
    apply covers.upcoming_le
    · rw [UInt64.le_iff_toNat_le, next]
      omega
    · rw [known, next]
      omega
  rw [UInt64.le_iff_toNat_le, next] at upper
  omega

theorem pending_of_numbersFrom (covers : Covers start (· ∈ numbersFrom start count) frontier) :
    frontier.pending = 0 := by
  have none : (numbersFrom start count).filter (frontier.limit.upcoming < ·) = [] := by
    rw [List.filter_eq_nil_iff]
    intro number member
    rw [mem_numbersFrom_iff_of_room (Nat.le_of_lt covers.room_of_numbersFrom)] at member
    rw [decide_eq_true_iff, UInt64.lt_iff_toNat_lt, covers.upcoming_of_numbersFrom]
    omega
  rw [covers.pending_eq, none]
  rfl

theorem held_back {numbers : List UInt64} (covers : Covers start (· ∈ numbers) frontier)
    (distinct : numbers.Nodup) (above : ∀ number ∈ numbers, start < number) :
    frontier.limit.upcoming = start ∧ frontier.pending = numbers.length := by
  have unmoved : frontier.limit.upcoming = start := by
    refine UInt64.le_antisymm (covers.upcoming_le (UInt64.le_refl start) ?_) covers.start_le
    exact fun member => UInt64.lt_irrefl start (above start member)
  have all : numbers.filter (frontier.limit.upcoming < ·) = numbers := by
    rw [List.filter_eq_self, unmoved]
    simpa using above
  refine ⟨unmoved, ?_⟩
  rw [covers.pending_eq, all, List.Nodup.dedup distinct]

theorem held_back_of_late (positive : 0 < records) (late : start ≠ 0)
    (covers : Covers records (· ∈ numbersFrom (start + records) count) frontier)
    (room : start.toNat + records.toNat + count ≤ 2 ^ 64) :
    frontier.last.toNat + 1 = records.toNat ∧ frontier.pending = count := by
  have distinct : (numbersFrom (start + records) count).Nodup := nodup_numbersFrom (by omega)
  rcases covers.held_back distinct (fun number => lt_of_mem_numbersFrom_add late room) with
    ⟨unmoved, pending⟩
  rw [last_toNat (covers.positive positive), unmoved, pending, length_numbersFrom]
  exact ⟨rfl, rfl⟩

theorem caught_up_iff (positive : 0 < records)
    (covers : Covers records (· ∈ numbersFrom (start + records) count) frontier) :
    frontier.pending = 0 ∧ frontier.last.toNat + 1 = start.toNat + records.toNat + count ↔
      start = 0 := by
  constructor
  · intro caught
    by_contra late
    have bound := frontier.last.toNat_lt
    have unmoved := (covers.held_back_of_late positive late (by omega)).1
    have started := UInt64.pos_iff_ne_zero.mpr late
    rw [UInt64.lt_iff_toNat_lt, UInt64.toNat_zero] at started
    omega
  · intro zero
    subst zero
    rw [UInt64.zero_add] at covers
    refine ⟨covers.pending_of_numbersFrom, ?_⟩
    rw [last_toNat (covers.positive positive), covers.upcoming_of_numbersFrom,
      UInt64.toNat_zero, Nat.zero_add]

end Frontier.Covers

/-! ## Numbers of inserts among the transactions -/

theorem Drawn.number?_eq {before after : Workload} {transaction : Transaction}
    (drawn : Drawn before .transactions transaction after) :
    transaction.number? =
      if transaction.operation = .insert then some before.keySequence.upcoming else none := by
  cases drawn <;> rfl

def Activity.Carries (number : UInt64) : Activity → Prop
  | .ready => False
  | .asking _ transaction _ | .answered _ transaction _ =>
      transaction.operation = .insert ∧ transaction.number? = some number

section Carried

variable {ι σ S H : Type} [DecidableEq ι] [WordSource σ] [Backend S H]
variable {crew next first last : Crew ι σ S H} {history : List (Event ι)} {number : UInt64}

theorem Step.acknowledged_or_carried {event : Event ι} {name : ι} (step : Step crew event next)
    (traced : (crew.worker name).activity.Traced history name)
    (successful : ∀ event ∈ history, event.succeeds)
    (carries : (crew.worker name).activity.Carries number) :
    number ∈ event.acknowledged ∨ (next.worker name).activity.Carries number := by
  by_cases same : event.worker = name
  · subst same
    cases step with
    | draw here =>
        simp only [Event.worker, here] at carries
        cases carries
    | askEarlier here | askDeciding here =>
        simp only [Event.worker, here] at carries
        simp only [Event.worker, Crew.move_worker_same]
        exact .inr carries
    | settle here settled =>
        -- The outcome is that of the call in the history, which was successful.
        simp only [Event.worker, here] at carries traced
        rcases traced with ⟨_, answer, asked, rfl⟩
        have succeeds := successful _ asked
        simp only [Event.succeeds, carries.1, ne_eq, not_true, decide_false, Bool.false_or]
          at succeeds
        exact .inl (Transaction.mem_acknowledged_iff.mpr ⟨succeeds, carries.2⟩)
  · rw [step.worker_of_other same]
    exact .inr carries

namespace Interleaving

theorem acknowledged_or_carried (ready : ∀ name, (first.worker name).activity = .ready)
    (run : Interleaving first history last) (successful : ∀ event ∈ history, event.succeeds)
    {name : ι} {phase : Phase} {transaction : Transaction}
    (drew : .drew name phase transaction ∈ history) (isInsert : transaction.operation = .insert)
    (numbered : transaction.number? = some number) :
    number ∈ history.flatMap Event.acknowledged ∨
      (last.worker name).activity.Carries number := by
  induction run with
  | start => cases drew
  | @step history event middle last earlier step induction =>
      have before : ∀ event ∈ history, event.succeeds := fun other member =>
        successful other (List.mem_append_left _ member)
      rw [List.flatMap_append, List.flatMap_singleton, List.mem_append]
      rcases List.mem_append.mp drew with drew | here
      · rcases induction before drew with acknowledged | carries
        · exact .inl (.inl acknowledged)
        · exact (step.acknowledged_or_carried (earlier.traced ready name) before carries).imp_left
            .inr
      · cases List.mem_singleton.mp here
        rw [step.asking_of_draw]
        exact .inr ⟨isInsert, numbered⟩

theorem dispensed_iff_drew (run : Interleaving first history last)
    (transactions : ∀ event ∈ history, event.phase = .transactions) :
    Dispensed first history number ↔ ∃ name transaction,
      .drew name .transactions transaction ∈ history ∧ transaction.operation = .insert ∧
        transaction.number? = some number := by
  constructor
  · intro dispensed
    rcases dispensed with ⟨past, event, later, rfl, handed⟩
    have phase := transactions event (by simp)
    rcases run.at_event with ⟨before, after, earlier, step⟩
    cases event with
    | asked | settled => cases handed.isInsert
    | drew name phase transaction =>
        cases phase
        have isInsert : transaction.operation = .insert := of_decide_eq_true handed.isInsert
        refine ⟨name, transaction, by simp, isInsert, ?_⟩
        rw [step.drawn.number?_eq, if_pos isInsert, ← handed.upcoming_eq earlier]
        rfl
  · intro drawn
    rcases drawn with ⟨name, transaction, drew, isInsert, numbered⟩
    rcases List.append_of_mem drew with ⟨past, later, rfl⟩
    rcases run.at_event with ⟨before, after, earlier, step⟩
    rw [step.drawn.number?_eq, if_pos isInsert] at numbered
    refine ⟨past, _, later, rfl, ?_, before, earlier, Option.some.inj numbered⟩
    exact decide_eq_true isInsert

theorem acknowledged_iff_dispensed (ready : ∀ name, (first.worker name).activity = .ready)
    (run : Interleaving first history last)
    (transactions : ∀ event ∈ history, event.phase = .transactions) (finished : last.Finished)
    (successful : ∀ event ∈ history, event.succeeds) :
    number ∈ history.flatMap Event.acknowledged ↔ Dispensed first history number := by
  rw [run.dispensed_iff_drew transactions]
  constructor
  · intro acknowledged
    rcases List.mem_flatMap.mp acknowledged with ⟨event, member, inside⟩
    cases event with
    | drew | asked => cases inside
    | settled name phase transaction status =>
        have numbered := (Transaction.mem_acknowledged_iff.mp inside).2
        have drew := (run.answered_of_settled ready member).1
        rcases run.drawn_of_drew drew with ⟨before, after, drawn, _⟩
        rcases drawn.of_number numbered with ⟨rfl, values, rfl⟩
        exact ⟨name, _, drew, rfl, numbered⟩
  · intro drawn
    rcases drawn with ⟨name, transaction, drew, isInsert, numbered⟩
    rcases run.acknowledged_or_carried ready successful drew isInsert numbered with
      acknowledged | carries
    · exact acknowledged
    · rw [(Worker.isDone_iff.mp (finished name)).2] at carries
      cases carries

end Interleaving
end Carried

/-! ## Loads, and then transactions -/

section CaughtUp

variable {ι σ S H : Type} [DecidableEq ι] [Fintype ι] [WordSource σ] [Backend S H]
variable {first loaded second last : Crew ι σ S H} {past history : List (Event ι)}

theorem Interleaving.covers_after_load {count : Nat}
    (fresh : first.world.workload.frontier = .startingAt first.world.workload.recordCount)
    (beginsLoad : first.Begins .load first.world.workload.recordCount.toNat)
    (loading : Interleaving first past loaded) (allLoaded : loaded.Finished)
    (begins : second.Begins .transactions count) (same : second.world = loaded.world)
    (run : Interleaving second history last) (finished : last.Finished)
    (successful : ∀ event ∈ history, event.succeeds) :
    second.upcoming = first.upcoming + first.world.workload.recordCount ∧
      Frontier.Covers first.world.workload.recordCount
        (· ∈ numbersFrom (first.upcoming + first.world.workload.recordCount) (inserts history))
        last.world.workload.frontier := by
  have upcoming : second.upcoming = first.upcoming + first.world.workload.recordCount := by
    rw [Crew.upcoming, same, ← Crew.upcoming, loading.upcoming_eq,
      loading.inserts_of_load beginsLoad allLoaded, UInt64.ofNat_toNat]
  have plan : second.world.workload.toPlan = first.world.workload.toPlan := by
    rw [same, loading.toPlan_eq]
  have freshAgain : second.world.workload.frontier =
      .startingAt second.world.workload.recordCount := by
    have unmoved := loading.frontier_eq_of_load beginsLoad.ready
      (loading.within beginsLoad.within).1
    rw [plan, same, unmoved, fresh]
  have covers := run.covers freshAgain
  rw [plan] at covers
  refine ⟨upcoming, covers.congr fun number => ?_⟩
  rw [run.acknowledged_iff_dispensed begins.ready (run.within begins.within).1 finished
    successful, run.dispensed_iff, upcoming]

/-- When a load is over and all inserts among the transactions have succeeded, the frontier
has caught up with all numbers that were handed out exactly if these start from zero. From any
other start on it has never moved, and every acknowledged number waits. -/
theorem Interleaving.frontier_caught_up_iff {properties : Properties} {start : UInt64}
    {count : Nat} (accepted : Workload.ofProperties properties = .ok first.world.workload)
    (starts : Properties.orDefault Properties.getNatural properties "insertstart" 0 = .ok start)
    (beginsLoad : first.Begins .load first.world.workload.recordCount.toNat)
    (loading : Interleaving first past loaded) (allLoaded : loaded.Finished)
    (begins : second.Begins .transactions count) (same : second.world = loaded.world)
    (run : Interleaving second history last) (finished : last.Finished)
    (successful : ∀ event ∈ history, event.succeeds) :
    ((∀ number, Dispensed first past number ∨ Dispensed second history number →
          number ≤ last.world.workload.frontier.last) ∧
        last.world.workload.frontier.pending = 0 ∧
        last.world.workload.frontier.last.toNat + 1 =
          start.toNat + first.world.workload.recordCount.toNat + inserts history ↔
      start = 0) ∧
      (start ≠ 0 →
        start.toNat + first.world.workload.recordCount.toNat + inserts history ≤ 2 ^ 64 →
        last.world.workload.frontier.last.toNat + 1 = first.world.workload.recordCount.toNat ∧
          last.world.workload.frontier.pending = inserts history) := by
  have configured := Workload.configured_of_ofProperties accepted
  have positive := configured.recordCount_positive
  have started : first.upcoming = start :=
    congrArg Counter.upcoming (configured.keySequence_eq starts)
  rcases covers_after_load configured.frontier beginsLoad loading allLoaded begins same run
    finished successful with ⟨upcoming, covers⟩
  rw [started] at upcoming covers
  have caughtUp := covers.caught_up_iff positive
  refine ⟨⟨fun caught => caughtUp.mp caught.2, fun zero => ⟨fun number dispensed => ?_,
    caughtUp.mpr zero⟩⟩, fun late => covers.held_back_of_late positive late⟩
  have reached := (caughtUp.mpr zero).2
  have bound := last.world.workload.frontier.last.toNat_lt
  subst zero
  rw [UInt64.toNat_zero, Nat.zero_add] at reached
  rw [UInt64.zero_add] at upcoming
  rw [UInt64.le_iff_toNat_le]
  rcases dispensed with loads | added
  · rw [loading.dispensed_iff, loading.inserts_of_load beginsLoad allLoaded, started,
      mem_numbersFrom_iff_of_room (by rw [UInt64.toNat_zero]; omega), UInt64.toNat_zero] at loads
    omega
  · rw [run.dispensed_iff, upcoming, mem_numbersFrom_iff_of_room (by omega)] at added
    omega

end CaughtUp

/-! A lone client, who loads one record and then inserts two. -/

def Crew.lone {σ S H : Type} (session : Session σ H) (ahead : List Phase) (world : World S) :
    Crew Unit σ S H :=
  ⟨world, fun _ => ⟨session, ahead, .ready⟩⟩

theorem Crew.lone_begins {σ S H : Type} (session : Session σ H) (phase : Phase) (count : Nat)
    (world : World S) : (lone session (List.replicate count phase) world).Begins phase count where
  ready _ := rfl
  ahead _ _ member := List.eq_of_mem_replicate member
  remaining := by simp [remaining, lone]

/-- The client before the load. Greatest words make its transactions inserts. -/
def Crew.loneLoader (workload : Workload) : Crew Unit Script Store Unit :=
  lone ⟨.ofList [18446744073709551615], ()⟩ [.load] ⟨workload, .ordered ∅⟩

def Crew.loneInserter (loaded : Crew Unit Script Store Unit) : Crew Unit Script Store Unit :=
  lone (loaded.worker ()).session [.transactions, .transactions] loaded.world

def Crew.loneRun (workload : Workload) : Option ((List (Event Unit) × Crew Unit Script Store Unit) ×
    List (Event Unit) × Crew Unit Script Store Unit) :=
  ((loneLoader workload).follow (List.replicate 3 ())).bind fun loaded =>
    ((loneInserter loaded.2).follow (List.replicate 6 ())).map fun run => (loaded, run)

theorem Crew.interleaving_of_loneRun {workload : Workload} {past history : List (Event Unit)}
    {loaded last : Crew Unit Script Store Unit}
    (ran : loneRun workload = some ((past, loaded), history, last)) :
    Interleaving (loneLoader workload) past loaded ∧
      Interleaving (loneInserter loaded) history last := by
  rcases Option.bind_eq_some_iff.mp ran with ⟨_, followed, rest⟩
  rcases Option.map_eq_some_iff.mp rest with ⟨_, later, equal⟩
  cases equal
  exact ⟨Interleaving.start.of_follow followed, Interleaving.start.of_follow later⟩

/-- Starting from zero, the frontier reaches the second of the two inserts. -/
theorem Interleaving.frontier_caught_up_iff_fromZero :
    Workload.ofProperties Workload.onePair = .ok .ofOnePair ∧
      Properties.orDefault Properties.getNatural Workload.onePair "insertstart" 0 = .ok 0 ∧
      ∃ past loaded history last,
        Interleaving (Crew.loneLoader .ofOnePair) past loaded ∧ loaded.Finished ∧
        Interleaving (Crew.loneInserter loaded) history last ∧ last.Finished ∧
        (∀ event ∈ history, event.succeeds) ∧ inserts history = 2 ∧
        last.world.workload.frontier.last.toNat = 2 ∧
        last.world.workload.frontier.pending = 0 := by
  have accepted : Workload.ofProperties Workload.onePair = .ok .ofOnePair :=
    Workload.ofProperties_onePair
  have moved : (Crew.loneRun .ofOnePair).map (fun ((_, loaded), history, last) =>
      (decide (loaded.Finished ∧ last.Finished ∧ ∀ event ∈ history, event.succeeds),
        inserts history)) = some (true, 2) := by decide +kernel
  rcases Option.map_eq_some_iff.mp moved with ⟨⟨⟨past, loaded⟩, history, last⟩, ran, equal⟩
  rcases Prod.mk.inj equal with ⟨ended, two⟩
  rcases of_decide_eq_true ended with ⟨allLoaded, finished, successful⟩
  rcases Crew.interleaving_of_loneRun ran with ⟨loading, run⟩
  rcases (frontier_caught_up_iff accepted rfl (Crew.lone_begins _ .load 1 _) loading allLoaded
    (Crew.lone_begins _ .transactions 2 _) rfl run finished successful).1.mpr rfl with
    ⟨_, pending, reached⟩
  rw [two] at reached
  exact ⟨accepted, rfl, past, loaded, history, last, loading, allLoaded, run, finished,
    successful, two, Nat.succ.inj reached, pending⟩

def Workload.fromFive : Properties where
  table := ("insertstart", .integer 5) :: onePair.table

def Workload.ofFromFive : Workload := { ofOnePair with keySequence := .startingAt 5 }

theorem Workload.ofProperties_fromFive : ofProperties fromFive = .ok ofFromFive := rfl

/-- Starting from five, the numbers six and seven are acknowledged and wait, and the frontier is
still at zero. -/
theorem Interleaving.frontier_not_always_caught_up :
    Workload.ofProperties Workload.fromFive = .ok .ofFromFive ∧
      Properties.orDefault Properties.getNatural Workload.fromFive "insertstart" 0 = .ok 5 ∧
      ∃ past loaded history last,
        Interleaving (Crew.loneLoader .ofFromFive) past loaded ∧ loaded.Finished ∧
        Interleaving (Crew.loneInserter loaded) history last ∧ last.Finished ∧
        (∀ event ∈ history, event.succeeds) ∧ inserts history = 2 ∧
        last.world.workload.frontier.last = 0 ∧
        last.world.workload.frontier.pending = 2 := by
  have moved : (Crew.loneRun .ofFromFive).map (fun ((_, loaded), history, last) =>
      (decide (loaded.Finished ∧ last.Finished ∧ ∀ event ∈ history, event.succeeds),
        inserts history, last.world.workload.frontier.last,
        last.world.workload.frontier.pending)) = some (true, 2, 0, 2) := by decide +kernel
  rcases Option.map_eq_some_iff.mp moved with ⟨⟨⟨past, loaded⟩, history, last⟩, ran, equal⟩
  simp only [Prod.mk.injEq, decide_eq_true_eq] at equal
  rcases equal with ⟨⟨allLoaded, finished, successful⟩, two, reached, pending⟩
  rcases Crew.interleaving_of_loneRun ran with ⟨loading, run⟩
  exact ⟨Workload.ofProperties_fromFive, rfl, past, loaded, history, last, loading, allLoaded, run,
    finished, successful, two, reached, pending⟩

end StoreBench
