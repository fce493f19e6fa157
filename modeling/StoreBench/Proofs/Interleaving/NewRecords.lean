import StoreBench.Proofs.Interleaving.CaughtUp
import StoreBench.Proofs.Interleaving.WholeRun

namespace StoreBench

/-! Whether inserts add records. The frontier counts the records of a load as present, also
in a run that skips the load, but only a load takes their numbers from the key sequence. So
the inserts among the transactions get numbers past those records after a load, and start over
with them when it is skipped. -/

/-! ## Numbers past the records -/

theorem numbersFrom_succ (start : UInt64) (count : Nat) :
    numbersFrom start (count + 1) = numbersFrom start count ++ [start + .ofNat count] := by
  simp [numbersFrom, List.range_succ]

theorem next_notMem_numbersFrom {start : UInt64} {count : Nat} (room : count < 2 ^ 64) :
    start + .ofNat count ∉ numbersFrom start count := by
  have distinct : (numbersFrom start (count + 1)).Nodup := nodup_numbersFrom room
  rw [numbersFrom_succ, List.nodup_append] at distinct
  intro member
  exact distinct.2.2 _ member _ (List.mem_singleton_self _) rfl

theorem mem_numbersFrom_concat {ι : Type} {start number : UInt64} (history : List (Event ι))
    (event : Event ι) (member : number ∈ numbersFrom start (inserts history)) :
    number ∈ numbersFrom start (inserts (history ++ [event])) := by
  rcases mem_numbersFrom_iff.mp member with ⟨index, early, rfl⟩
  rw [inserts_concat]
  exact mem_numbersFrom_iff.mpr ⟨index, by omega, rfl⟩

theorem numbersFrom_after_iff {records : UInt64} {count : Nat} (positive : 0 < records) :
    (∀ number ∈ numbersFrom records count, records ≤ number) ↔
      count = 0 ∨ records.toNat + count ≤ 2 ^ 64 := by
  have bound := records.toNat_lt
  constructor
  · intro above
    by_contra crowded
    have member : 0 ∈ numbersFrom records count := by
      refine mem_numbersFrom_iff.mpr ⟨2 ^ 64 - records.toNat, by omega, ?_⟩
      rw [← UInt64.toNat_inj, UInt64.toNat_add, UInt64.toNat_ofNat', UInt64.toNat_zero]
      omega
    exact UInt64.not_le.mpr positive (above 0 member)
  · intro room number member
    rcases room with rfl | room
    · cases member
    · rw [mem_numbersFrom_iff_of_room room] at member
      exact UInt64.le_iff_toNat_le.mpr member.1

theorem numbersFrom_zero_after_iff {records : UInt64} {count : Nat} (positive : 0 < records) :
    (∀ number ∈ numbersFrom 0 count, records ≤ number) ↔ count = 0 := by
  constructor
  · intro above
    by_contra some
    have member : 0 ∈ numbersFrom 0 count :=
      mem_numbersFrom_iff.mpr ⟨0, Nat.pos_of_ne_zero some, rfl⟩
    exact UInt64.not_le.mpr positive (above 0 member)
  · rintro rfl number member
    cases member

/-! ## Numbers in hand -/

section InHand

variable {ι σ S H : Type} [DecidableEq ι] [WordSource σ] [Backend S H]
variable {first crew next last : Crew ι σ S H} {history : List (Event ι)} {event : Event ι}
variable {name : ι} {number : UInt64}

theorem Step.handed_or_carried (step : Step crew event next)
    (carries : (next.worker name).activity.Carries number) :
    (event.worker = name ∧ event.isInsert ∧
        (event.phase = .transactions → crew.upcoming = number)) ∨
      ((crew.worker name).activity.Carries number ∧
        (event.worker = name → event.acknowledged = [])) := by
  by_cases same : event.worker = name
  · subst same
    cases step with
    | draw ready drawn =>
        have made := (Step.draw ready drawn).drawn
        simp only [Event.worker, Crew.move_worker_same] at carries
        refine .inl ⟨rfl, decide_eq_true carries.1, ?_⟩
        rintro rfl
        have handed := made.number?_eq
        rw [if_pos carries.1, carries.2] at handed
        exact (Option.some.inj handed).symm
    | askEarlier asking answered | askDeciding asking answered =>
        simp only [Event.worker, Crew.move_worker_same] at carries
        simp only [Event.worker, asking]
        exact .inr ⟨carries, fun _ => rfl⟩
    | settle answered settled =>
        simp only [Event.worker, Crew.move_worker_same] at carries
        cases carries
  · rw [step.worker_of_other same] at carries
    exact .inr ⟨carries, fun here => absurd here same⟩

theorem Interleaving.carries_of_acknowledged
    (ready : ∀ name, (first.worker name).activity = .ready)
    (run : Interleaving first history crew) (step : Step crew event next)
    (acknowledged : number ∈ event.acknowledged) :
    (crew.worker event.worker).activity.Carries number := by
  cases step with
  | draw | askEarlier | askDeciding => cases acknowledged
  | @settle worker _ _ _ _ _ _ answered settled =>
      have numbered := (Transaction.mem_acknowledged_iff.mp acknowledged).2
      have traced := run.traced ready worker
      simp only [answered] at traced
      rcases run.drawn_of_drew traced.1 with ⟨_, _, drawn, _⟩
      rcases drawn.of_number numbered with ⟨rfl, _, rfl⟩
      simp only [Event.worker, answered]
      exact ⟨rfl, numbered⟩

/-- The numbers of the inserts so far: a number in hand is in the hands of one worker, and
is not acknowledged yet. -/
structure Crew.InHand (first : Crew ι σ S H) (history : List (Event ι)) (crew : Crew ι σ S H) :
    Prop where
  carried : ∀ name number, (crew.worker name).activity.Carries number →
    number ∈ numbersFrom first.upcoming (inserts history)
  acknowledged : ∀ number ∈ history.flatMap Event.acknowledged,
    number ∈ numbersFrom first.upcoming (inserts history)
  unsettled : ∀ name number, (crew.worker name).activity.Carries number →
    number ∉ history.flatMap Event.acknowledged
  unshared : ∀ name other number, (crew.worker name).activity.Carries number →
    (crew.worker other).activity.Carries number → name = other

theorem Crew.InHand.fresh (inHand : InHand first history crew)
    (run : Interleaving first history crew) (room : inserts history < 2 ^ 64) :
    (∀ name, ¬(crew.worker name).activity.Carries crew.upcoming) ∧
      crew.upcoming ∉ history.flatMap Event.acknowledged := by
  have new : crew.upcoming ∉ numbersFrom first.upcoming (inserts history) := by
    rw [run.upcoming_eq]
    exact next_notMem_numbersFrom room
  exact ⟨fun name carries => new (inHand.carried name _ carries),
    fun known => new (inHand.acknowledged _ known)⟩

theorem Crew.InHand.step (inHand : InHand first history crew)
    (ready : ∀ name, (first.worker name).activity = .ready)
    (run : Interleaving first history crew) (step : Step crew event next)
    (transactions : event.phase = .transactions) (room : inserts (history ++ [event]) ≤ 2 ^ 64) :
    InHand first (history ++ [event]) next := by
  have settled (number : UInt64) (member : number ∈ event.acknowledged) :=
    run.carries_of_acknowledged ready step member
  -- Whoever carries a number now has just got it as a new one, or has carried it all along.
  have origin (name : ι) (number : UInt64) (carries : (next.worker name).activity.Carries number) :
      (event.worker = name ∧ event.isInsert ∧ crew.upcoming = number ∧
          (∀ other, ¬(crew.worker other).activity.Carries number) ∧
          number ∉ history.flatMap Event.acknowledged) ∨
        ((crew.worker name).activity.Carries number ∧
          (event.worker = name → event.acknowledged = [])) := by
    refine (step.handed_or_carried carries).imp_left ?_
    rintro ⟨here, isInsert, handed⟩
    cases handed transactions
    rw [inserts_concat, if_pos isInsert] at room
    rcases inHand.fresh run room with ⟨uncarried, unknown⟩
    exact ⟨here, isInsert, rfl, uncarried, unknown⟩
  refine ⟨?_, ?_, ?_, ?_⟩
  · intro name number carries
    rcases origin name number carries with ⟨_, isInsert, handed, _⟩ | ⟨before, _⟩
    · rw [inserts_concat, if_pos isInsert, numbersFrom_succ, ← run.upcoming_eq, handed]
      exact List.mem_append_right _ (List.mem_singleton_self number)
    · exact mem_numbersFrom_concat history event (inHand.carried name number before)
  · intro number member
    rw [List.flatMap_append, List.flatMap_singleton, List.mem_append] at member
    apply mem_numbersFrom_concat
    rcases member with known | here
    · exact inHand.acknowledged number known
    · exact inHand.carried _ number (settled number here)
  · intro name number carries member
    rw [List.flatMap_append, List.flatMap_singleton, List.mem_append] at member
    rcases origin name number carries with ⟨_, _, _, uncarried, unknown⟩ | ⟨before, unsettled⟩
    · exact member.elim unknown fun here => uncarried _ (settled number here)
    · rcases member with known | here
      · exact inHand.unsettled name number before known
      · have same := inHand.unshared _ _ number (settled number here) before
        rw [unsettled same] at here
        cases here
  · intro name other number carries shared
    rcases origin name number carries with ⟨here, _, _, uncarried, _⟩ | ⟨before, _⟩
    · rcases origin other number shared with ⟨there, _⟩ | ⟨sharedBefore, _⟩
      · exact here.symm.trans there
      · exact absurd sharedBefore (uncarried other)
    · rcases origin other number shared with ⟨_, _, _, uncarried, _⟩ | ⟨sharedBefore, _⟩
      · exact absurd before (uncarried name)
      · exact inHand.unshared name other number before sharedBefore

theorem Interleaving.inHand (ready : ∀ name, (first.worker name).activity = .ready)
    (run : Interleaving first history last)
    (transactions : ∀ event ∈ history, event.phase = .transactions)
    (room : inserts history ≤ 2 ^ 64) : Crew.InHand first history last := by
  induction run with
  | start =>
      have none (name : ι) (number : UInt64) : ¬(first.worker name).activity.Carries number := by
        rw [ready name]
        exact id
      exact ⟨fun name number carries => absurd carries (none name number), by simp,
        fun name number carries => absurd carries (none name number),
        fun name _ number carries => absurd carries (none name number)⟩
  | @step history event middle last earlier step induction =>
      have fewer : inserts history ≤ inserts (history ++ [event]) := by
        rw [inserts_concat]
        omega
      have before := induction
        (fun other member => transactions other (List.mem_append_left _ member)) (by omega)
      exact before.step ready earlier step (transactions event (by simp)) room

/-- A number in hand is past the frontier, so it is not taken for a known one, if it is not
that of a record that was there from the start. -/
theorem Crew.InHand.last_lt_iff
    (fresh : first.world.workload.frontier = .startingAt first.world.workload.recordCount)
    (positive : 0 < first.world.workload.recordCount) (inHand : InHand first history crew)
    (run : Interleaving first history crew)
    (carries : (crew.worker name).activity.Carries number) :
    crew.world.workload.frontier.last < number ↔ first.world.workload.recordCount ≤ number := by
  have covers := run.covers fresh
  rw [← UInt64.not_le, Frontier.le_last_iff (covers.positive positive), UInt64.not_lt]
  constructor
  · exact fun past => UInt64.le_trans covers.start_le past
  · exact fun above => covers.upcoming_le above (inHand.unsettled name number carries)

end InHand

/-! ## Transactions after a load or without one -/

section NewRecords

variable {σ S H : Type} [WordSource σ] [Backend S H] {properties : Properties} {run : Run S}
variable {sources : Phase → Nat → σ} {history : List (Event (Fin run.benchmark.threads))}
variable {crew : Crew (Fin run.benchmark.threads) σ S H}

/-- How the transactions of a run begin: the frontier is right below the number of records
in any case, and the key sequence stands there only if these were loaded. -/
structure Run.Transacts (run : Run S) (first : Crew (Fin run.benchmark.threads) σ S H) : Prop where
  ready : ∀ name, (first.worker name).activity = .ready
  within : ∀ name, (first.worker name).Within .transactions
  toPlan : first.world.workload.toPlan = run.world.workload.toPlan
  frontier : first.world.workload.frontier = .startingAt run.world.workload.recordCount
  upcoming : first.upcoming =
    if run.benchmark.skipLoad then 0 else run.world.workload.recordCount

theorem Run.transacts
    (frontier : run.world.workload.frontier = .startingAt run.world.workload.recordCount)
    (zero : run.world.workload.keySequence = .startingAt 0)
    (even : run.benchmark.threads ∣ run.world.workload.recordCount.toNat)
    (underway : Underway run.benchmark.threads sources run.world run.schedule .transactions
      history crew) :
    ∃ first, run.Transacts first ∧ Interleaving first history crew := by
  cases loads : run.benchmark.skipLoad with
  | true =>
      have schedule : run.schedule =
          [(.transactions, run.world.workload.transactionCount.toNat)] := by
        simp [Run.schedule, loads]
      rw [schedule] at underway
      cases underway with
      | current running =>
          refine ⟨_, ⟨fun _ => rfl, Crew.opened_within _ _ _ _ _, rfl, frontier, ?_⟩, running⟩
          rw [loads]
          exact congrArg Counter.upcoming zero
      | later _ _ none => cases none
  | false =>
      have schedule : run.schedule = [(.load, run.world.workload.recordCount.toNat),
          (.transactions, run.world.workload.transactionCount.toNat)] := by
        simp [Run.schedule, loads]
      rw [schedule] at underway
      cases underway with
      | later loading finished next =>
          cases next with
          | current running =>
              have begins := Crew.opened_begins .load run.benchmark.threads
                run.world.workload.recordCount.toNat (sources .load) run.world
              refine ⟨_, ⟨fun _ => rfl, Crew.opened_within _ _ _ _ _, loading.toPlan_eq, ?_, ?_⟩,
                running⟩
              · exact (loading.frontier_eq_of_load begins.ready
                  (loading.within begins.within).1).trans frontier
              · have upcoming := loading.upcoming_eq
                rw [loading.inserts_of_load begins finished, Nat.mul_div_cancel' even,
                  UInt64.ofNat_toNat] at upcoming
                rw [loads]
                refine upcoming.trans ?_
                rw [Crew.upcoming, Crew.opened, zero]
                exact UInt64.zero_add _
          | later _ _ none => cases none

/-- The inserts among the transactions of a run get numbers past all records exactly if these
were loaded in the same run. What a worker is about to insert has to be one of those to be
past the frontier, so that it overwrites nothing and its acknowledgement counts. -/
theorem Run.inserts_new_iff
    (accepted : Workload.ofProperties properties = .ok run.world.workload)
    (fromZero : Properties.orDefault Properties.getNatural properties "insertstart" 0 = .ok 0)
    (even : run.benchmark.threads ∣ run.world.workload.recordCount.toNat)
    (underway : Underway run.benchmark.threads sources run.world run.schedule .transactions
      history crew) :
    ((∀ name transaction number, .drew name .transactions transaction ∈ history →
          transaction.number? = some number → run.world.workload.recordCount ≤ number) ↔
        inserts history = 0 ∨ run.benchmark.skipLoad = false ∧
          run.world.workload.recordCount.toNat + inserts history ≤ 2 ^ 64) ∧
      (inserts history ≤ 2 ^ 64 →
        ∀ name number, (crew.worker name).activity.Carries number →
          (crew.world.workload.frontier.last < number ↔
            run.world.workload.recordCount ≤ number)) := by
  have configured := Workload.configured_of_ofProperties accepted
  have positive := configured.recordCount_positive
  rcases Run.transacts configured.frontier (configured.keySequence_eq fromZero) even underway with
    ⟨first, begins, running⟩
  have transactions := (running.within begins.within).1
  have drawn (property : UInt64 → Prop) :
      (∀ name transaction number, .drew name .transactions transaction ∈ history →
          transaction.number? = some number → property number) ↔
        ∀ number ∈ numbersFrom first.upcoming (inserts history), property number := by
    simp only [← running.dispensed_iff, running.dispensed_iff_drew transactions]
    constructor
    · rintro all number ⟨name, transaction, drew, _, numbered⟩
      exact all name transaction number drew numbered
    · intro all name transaction number drew numbered
      rcases running.drawn_of_drew drew with ⟨_, _, made, _⟩
      rcases made.of_number numbered with ⟨_, _, rfl⟩
      exact all number ⟨name, _, drew, rfl, numbered⟩
  refine ⟨?_, ?_⟩
  · rw [drawn, begins.upcoming]
    cases run.benchmark.skipLoad with
    | true => simpa using numbersFrom_zero_after_iff positive
    | false => simpa using numbersFrom_after_iff positive
  · intro room name number carries
    have inHand := running.inHand begins.ready transactions room
    have plan := begins.toPlan
    rw [← plan] at positive ⊢
    exact inHand.last_lt_iff (plan ▸ begins.frontier) positive running carries

end NewRecords

/-! One worker and one record, which is loaded or was in the store before. Greatest words make
the transaction an insert. -/

def Run.ofOnePair : Run Store where
  storeName := "btreemap"
  benchmark := ⟨1, by decide, false, false, none, .hidden, false⟩
  world := ⟨.ofOnePair, .ordered ∅⟩

def Crew.oneInserter (phase : Phase) (world : World Store) : Crew (Fin 1) Script Store Unit :=
  .opened phase 1 1 (fun _ => .ofList [18446744073709551615]) world

instance (number : UInt64) (activity : Activity) : Decidable (activity.Carries number) :=
  match activity with
  | .ready => isFalse id
  | .asking .. | .answered .. => inferInstanceAs (Decidable (_ ∧ _))

/-- After the load of record zero, the insert has number one, which is past the frontier. -/
theorem Run.inserts_new_iff_onePair :
    Workload.ofProperties Workload.onePair = .ok Run.ofOnePair.world.workload ∧
      Properties.orDefault Properties.getNatural Workload.onePair "insertstart" 0 = .ok 0 ∧
      Run.ofOnePair.benchmark.threads ∣ Run.ofOnePair.world.workload.recordCount.toNat ∧
      ∃ history crew,
        Underway 1 (fun _ _ => Script.ofList [18446744073709551615]) Run.ofOnePair.world
          Run.ofOnePair.schedule .transactions history crew ∧
        inserts history = 1 ∧
        (∀ name transaction number, .drew name .transactions transaction ∈ history →
          transaction.number? = some number → 1 ≤ number) ∧
        (crew.worker 0).activity.Carries 1 ∧ crew.world.workload.frontier.last < 1 := by
  have accepted : Workload.ofProperties Workload.onePair = .ok Run.ofOnePair.world.workload :=
    Workload.ofProperties_onePair
  have even : Run.ofOnePair.benchmark.threads ∣
    Run.ofOnePair.world.workload.recordCount.toNat := one_dvd _
  have moved : ((Crew.oneInserter .load Run.ofOnePair.world).follow [0, 0, 0]).bind (fun loaded =>
      ((Crew.oneInserter .transactions loaded.2.world).follow [0, 0]).map fun (history, crew) =>
        (decide (loaded.2.Finished ∧ (crew.worker 0).activity.Carries 1), inserts history)) =
      some (true, 1) := by
    decide +kernel
  rcases Option.bind_eq_some_iff.mp moved with ⟨⟨past, done⟩, loaded, rest⟩
  rcases Option.map_eq_some_iff.mp rest with ⟨⟨history, crew⟩, followed, equal⟩
  rcases Prod.mk.inj equal with ⟨ended, one⟩
  rcases of_decide_eq_true ended with ⟨finished, carries⟩
  have underway : Underway 1 (fun _ _ => Script.ofList [18446744073709551615])
      Run.ofOnePair.world Run.ofOnePair.schedule .transactions history crew :=
    .later (Interleaving.start.of_follow loaded) finished
      (.current (Interleaving.start.of_follow followed))
  rcases Run.inserts_new_iff accepted rfl even underway with ⟨new, past⟩
  have room : 1 + inserts history ≤ 2 ^ 64 := by omega
  exact ⟨accepted, rfl, even, history, crew, underway, one, new.mpr (.inr ⟨rfl, room⟩),
    carries, (past (Nat.le_of_add_left_le room) _ 1 carries).mpr (UInt64.le_refl 1)⟩

def Run.ofPopulatedPair : Run Store where
  storeName := "btreemap"
  benchmark := { ofOnePair.benchmark with skipLoad := true }
  world :=
    ⟨.ofOnePair, .ordered (Tables.put ∅ "usertable" (Workload.ofOnePair.keyName 0) ∅)⟩

/-- Without the load, the insert has number zero, which the store and the frontier count as
present. It is answered with success, and the acknowledgement has no effect. -/
theorem Run.not_every_insert_new :
    Workload.ofProperties Workload.onePair = .ok Run.ofPopulatedPair.world.workload ∧
      Properties.orDefault Properties.getNatural Workload.onePair "insertstart" 0 = .ok 0 ∧
      Run.ofPopulatedPair.benchmark.threads ∣
        Run.ofPopulatedPair.world.workload.recordCount.toNat ∧
      (∀ number < Run.ofPopulatedPair.world.workload.recordCount,
        Run.ofPopulatedPair.world.Holds number) ∧
      ∃ history crew transaction,
        Underway 1 (fun _ _ => Script.ofList [18446744073709551615]) Run.ofPopulatedPair.world
          Run.ofPopulatedPair.schedule .transactions history crew ∧
        crew.Finished ∧ .drew 0 .transactions transaction ∈ history ∧
        transaction.number? = some 0 ∧
        (∃ status, status.isOk ∧ .settled 0 .transactions transaction status ∈ history) ∧
        crew.world.workload.frontier.last = 0 ∧ crew.world.workload.frontier.pending = 0 := by
  have held : ∀ number < Run.ofPopulatedPair.world.workload.recordCount,
      Run.ofPopulatedPair.world.Holds number := by
    intro number first
    have zero : number = 0 := by
      rw [UInt64.lt_iff_toNat_lt] at first
      exact UInt64.toNat_inj.mp (Nat.lt_one_iff.mp first)
    subst zero
    exact Tables.has_put.mpr (.inl ⟨rfl, rfl⟩)
  have moved : ((Crew.oneInserter .transactions Run.ofPopulatedPair.world).follow [0, 0, 0]).map
      (fun (history, crew) => (decide crew.Finished, history.flatMap Event.acknowledged,
        crew.world.workload.frontier.last, crew.world.workload.frontier.pending)) =
      some (true, [0], 0, 0) := by
    decide +kernel
  rcases Option.map_eq_some_iff.mp moved with ⟨⟨history, crew⟩, followed, equal⟩
  simp only [Prod.mk.injEq, decide_eq_true_eq] at equal
  rcases equal with ⟨finished, acknowledged, last, pending⟩
  have running := Interleaving.start.of_follow followed
  have member : 0 ∈ history.flatMap Event.acknowledged := acknowledged ▸ List.mem_singleton_self 0
  rcases List.mem_flatMap.mp member with ⟨event, settled, inside⟩
  cases event with
  | drew | asked => cases inside
  | settled name phase transaction status =>
      rcases Transaction.mem_acknowledged_iff.mp inside with ⟨successful, numbered⟩
      cases Subsingleton.elim name 0
      cases (running.within (Crew.opened_within _ _ _ _ _)).1 _ settled
      have drew := (running.answered_of_settled (fun _ => rfl) settled).1
      exact ⟨Workload.ofProperties_onePair, rfl, one_dvd _, held, history, crew, transaction,
        .current running, finished, drew, numbered, ⟨status, successful, settled⟩, last, pending⟩

end StoreBench
