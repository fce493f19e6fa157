import StoreBench.Proofs.Configured
import StoreBench.Proofs.Interleaving.Dispensed

namespace StoreBench

/-! Records that a load leaves behind. A load that comes to its end has inserted a record
for every number that it has handed out. It hands out as many as its workers have
transactions, and what does not divide over the workers is dropped, while the frontier
counts on all records. -/

/-! ## What a worker does next -/

section Next

variable {ι σ S H : Type} [DecidableEq ι] [WordSource σ] [Backend S H]
variable {crew next first last : Crew ι σ S H} {event : Event ι} {name : ι}
variable {phase : Phase} {transaction : Transaction}

theorem Step.asked_of_asking (step : Step crew event next)
    (asking : (crew.worker event.worker).activity = .asking phase transaction []) :
    ∃ answer, event = .asked event.worker phase transaction transaction.deciding answer := by
  cases step with
  | draw here | askEarlier here | settle here => simp [Event.worker, here] at asking
  | askDeciding here answered =>
      simp only [Event.worker, here, Activity.asking.injEq] at asking
      rcases asking with ⟨rfl, rfl, _⟩
      exact ⟨_, rfl⟩

theorem Interleaving.answered_or_asking {past later : List (Event ι)}
    (single : transaction.earlier = [])
    (run : Interleaving first (past ++ .drew name phase transaction :: later) last) :
    (∃ between answer rest,
      later = between ++ .asked name phase transaction transaction.deciding answer :: rest ∧
        ∀ event ∈ between, event.worker ≠ name) ∨
      (last.worker name).activity = .asking phase transaction [] ∧
        ∀ event ∈ later, event.worker ≠ name := by
  induction later using List.reverseRecOn generalizing last with
  | nil =>
      rcases run.before_last with ⟨middle, _, step⟩
      refine .inr ⟨?_, by simp⟩
      rw [step.asking_of_draw, single]
  | append_singleton later event induction =>
      rw [← List.cons_append, ← List.append_assoc] at run
      rcases run.before_last with ⟨middle, earlier, step⟩
      rcases induction earlier with ⟨between, answer, rest, rfl, others⟩ | ⟨asking, others⟩
      · exact .inl ⟨between, answer, rest ++ [event], by simp, others⟩
      · by_cases same : event.worker = name
        -- The worker has no call left but the deciding one, so this step is the answer to it.
        · subst same
          rcases step.asked_of_asking asking with ⟨answer, here⟩
          exact .inl ⟨later, answer, [], by rw [← here], others⟩
        · refine .inr ⟨?_, ?_⟩
          · rw [step.worker_of_other same, asking]
          · simp only [List.mem_append, List.mem_singleton]
            rintro other (member | rfl)
            · exact others other member
            · exact same

end Next

/-! ## Loaded records -/

section Loaded

variable {ι σ S H : Type} [DecidableEq ι] [WordSource σ] [Backend S H]

/-- A load has inserted the record with a number: the number was handed to an insert, and
the next step of the worker that drew it was a call for this record, which the store has
answered with success. -/
def Loaded (first : Crew ι σ S H) (history : List (Event ι)) (number : UInt64) : Prop :=
  ∃ past between later name transaction values answer,
    history = past ++ .drew name .load transaction ::
      (between ++ .asked name .load transaction (.insert first.world.workload.table
        (first.world.workload.keyName number) values) answer :: later) ∧
    Handed first past (.drew name .load transaction) number ∧
    (∀ event ∈ between, event.worker ≠ name) ∧ answer.status.isOk

variable {first last : Crew ι σ S H} {history : List (Event ι)} {number : UInt64}

theorem Drawn.of_load {before after : Workload} {transaction : Transaction}
    (drawn : Drawn before .load transaction after) :
    transaction.operation = .insert ∧ transaction.earlier = [] ∧ ∃ values,
      transaction.deciding =
        .insert before.table (before.keyName before.keySequence.upcoming) values := by
  cases drawn with
  | load values same => exact ⟨rfl, rfl, values, rfl⟩

theorem Loaded.dispensed (loaded : Loaded first history number) :
    Dispensed first history number := by
  rcases loaded with ⟨past, between, later, name, transaction, values, answer, rfl, handed, _⟩
  exact ⟨past, _, _, rfl, handed⟩

theorem Interleaving.loaded_of_dispensed (run : Interleaving first history last)
    (load : ∀ event ∈ history, event.phase = .load) (finished : last.Finished)
    (successful : ∀ event ∈ history, event.succeeds) (dispensed : Dispensed first history number) :
    Loaded first history number := by
  rcases dispensed with ⟨past, event, later, rfl, handed⟩
  have phase := load event (by simp)
  cases event with
  | asked | settled => cases handed.isInsert
  | drew name phase transaction =>
      cases phase
      rcases run.at_event with ⟨before, after, earlier, step⟩
      have upcoming : before.world.workload.keySequence.upcoming = number :=
        handed.upcoming_eq earlier
      rcases step.drawn.of_load with ⟨isInsert, single, values, deciding⟩
      rw [upcoming, earlier.toPlan_eq] at deciding
      rcases run.answered_or_asking single with ⟨between, answer, rest, rfl, others⟩ | busy
      · refine ⟨past, between, rest, name, transaction, values, answer, ?_, handed, others, ?_⟩
        · rw [← deciding]
        · have succeeds := successful
            (.asked name .load transaction transaction.deciding answer) (by simp)
          simpa [Event.succeeds, isInsert] using succeeds
      · have idle := (Worker.isDone_iff.mp (finished name)).2
        rw [busy.1] at idle
        cases idle

theorem Interleaving.loaded_iff [Fintype ι] {total : Nat} (begins : first.Begins .load total)
    (run : Interleaving first history last) (finished : last.Finished)
    (successful : ∀ event ∈ history, event.succeeds) :
    Loaded first history number ↔ number ∈ numbersFrom first.upcoming total := by
  rw [← run.inserts_of_load begins finished, ← run.dispensed_iff]
  have load := (run.within begins.within).1
  exact ⟨Loaded.dispensed, run.loaded_of_dispensed load finished successful⟩

theorem Interleaving.le_last_iff_of_load
    (fresh : first.world.workload.frontier = .startingAt first.world.workload.recordCount)
    (positive : 0 < first.world.workload.recordCount)
    (ready : ∀ name, (first.worker name).activity = .ready)
    (run : Interleaving first history last) (load : ∀ event ∈ history, event.phase = .load) :
    number ≤ last.world.workload.frontier.last ↔ number < first.world.workload.recordCount := by
  rw [run.frontier_eq_of_load ready load, fresh]
  exact Frontier.le_last_iff positive

end Loaded

/-! ## The load of a run -/

theorem dvd_iff_forall_lt {count : UInt64} (positive : 0 < count) (parts : Nat) :
    parts ∣ count.toNat ↔ ∀ number < count, number.toNat < parts * (count.toNat / parts) := by
  constructor
  · intro even number less
    rw [Nat.mul_div_cancel' even]
    exact UInt64.lt_iff_toNat_lt.mp less
  · intro all
    rw [UInt64.lt_iff_toNat_lt, UInt64.toNat_zero] at positive
    have bound := count.toNat_lt
    have last : (UInt64.ofNat (count.toNat - 1)).toNat = count.toNat - 1 :=
      UInt64.toNat_ofNat_of_lt' (by rw [UInt64.size]; omega)
    have shared := all (.ofNat (count.toNat - 1)) (by rw [UInt64.lt_iff_toNat_lt, last]; omega)
    have most := Nat.mul_div_le count.toNat parts
    exact Dvd.intro (count.toNat / parts) (by omega)

theorem Run.total_of_load {S : Type} {run : Run S} {total : Nat}
    (scheduled : (.load, total) ∈ run.schedule) :
    total = run.world.workload.recordCount.toNat := by
  cases skipped : run.benchmark.skipLoad <;> simp [schedule, skipped] at scheduled
  exact scheduled

/-- After a load in which the store has answered every insert with success, the records of an
even share for each worker are loaded, and the frontier covers as many as were wanted. So it
covers loaded records only if the workers divide them evenly, and else it covers some that
nobody has inserted. -/
theorem Run.frontier_covers_loaded_iff {σ S H : Type} [WordSource σ] [Backend S H]
    {properties : Properties} {run : Run S} {sources : Nat → σ} {total : Nat}
    {history : List (Event (Fin run.benchmark.threads))}
    {done : Crew (Fin run.benchmark.threads) σ S H}
    (accepted : Workload.ofProperties properties = .ok run.world.workload)
    (fromZero : Properties.orDefault Properties.getNatural properties "insertstart" 0 = .ok 0)
    (scheduled : (.load, total) ∈ run.schedule)
    (loading : Interleaving (Crew.opened .load run.benchmark.threads total sources run.world)
      history done)
    (finished : done.Finished) (successful : ∀ event ∈ history, event.succeeds) :
    (∀ number,
      Loaded (Crew.opened .load run.benchmark.threads total sources run.world) history number ↔
        number.toNat < run.benchmark.threads *
          (run.world.workload.recordCount.toNat / run.benchmark.threads)) ∧
      (∀ number, number ≤ done.world.workload.frontier.last ↔
        number < run.world.workload.recordCount) ∧
      ((∀ number ≤ done.world.workload.frontier.last,
        Loaded (Crew.opened .load run.benchmark.threads total sources run.world) history
          number) ↔
        run.benchmark.threads ∣ run.world.workload.recordCount.toNat) := by
  have configured := Workload.configured_of_ofProperties accepted
  have positive := configured.recordCount_positive
  have begins := Crew.opened_begins .load run.benchmark.threads total sources run.world
  have upcoming : (Crew.opened .load run.benchmark.threads total sources run.world).upcoming =
      0 := congrArg Counter.upcoming (configured.keySequence_eq fromZero)
  have room : (0 : UInt64).toNat + run.benchmark.threads * (total / run.benchmark.threads) ≤
      2 ^ 64 := by
    have most := Nat.mul_div_le total run.benchmark.threads
    have bound := run.world.workload.recordCount.toNat_lt
    rw [Run.total_of_load scheduled] at most ⊢
    rw [UInt64.toNat_zero]
    omega
  have loaded (number : UInt64) :
      Loaded (Crew.opened .load run.benchmark.threads total sources run.world) history number ↔
        number.toNat < run.benchmark.threads *
          (run.world.workload.recordCount.toNat / run.benchmark.threads) := by
    rw [loading.loaded_iff begins finished successful, upcoming,
      mem_numbersFrom_iff_of_room room, Run.total_of_load scheduled]
    simp
  have covered (number : UInt64) : number ≤ done.world.workload.frontier.last ↔
      number < run.world.workload.recordCount :=
    loading.le_last_iff_of_load configured.frontier positive begins.ready
      (loading.within begins.within).1
  refine ⟨loaded, covered, ?_⟩
  rw [dvd_iff_forall_lt positive]
  exact forall_congr' fun number => imp_congr (covered number) (loaded number)

def Workload.threeRecords : Properties where
  table := [("recordcount", .integer 3), ("fieldcount", .integer 1),
    ("fieldlength", .integer 1), ("readproportion", .float 1), ("updateproportion", .float 0)]

def Workload.ofThreeRecords : Workload :=
  { ofOnePair with
    recordCount := 3
    operations := ⟨[(.read, 1)], 1, none⟩
    keys := .uniform ⟨0, 2, 0, by decide⟩
    frontier := .startingAt 3 }

theorem Workload.ofProperties_threeRecords : ofProperties threeRecords = .ok ofThreeRecords := rfl

def Run.ofTwoWorkers : Run Store where
  storeName := "btreemap"
  benchmark := ⟨2, by decide, false, false, none, .hidden, false⟩
  world := ⟨.ofThreeRecords, .ordered ∅⟩

def Crew.twoLoaders : Crew (Fin 2) Script Store Unit :=
  .opened .load 2 3 (fun _ => .ofList [0]) Run.ofTwoWorkers.world

theorem Crew.twoLoaders_done : ∃ history done, Interleaving twoLoaders history done ∧
    done.Finished ∧ ∀ event ∈ history, event.succeeds := by
  have moved : (twoLoaders.follow [0, 1, 0, 1, 1, 0]).map (fun run =>
      decide (run.2.Finished ∧ ∀ event ∈ run.1, event.succeeds)) = some true := by decide +kernel
  rcases Option.map_eq_some_iff.mp moved with ⟨⟨history, done⟩, followed, ended⟩
  rcases of_decide_eq_true ended with ⟨finished, successful⟩
  exact ⟨history, done, Interleaving.start.of_follow followed, finished, successful⟩

/-- Two of the three records are loaded, and all three are covered. -/
theorem Run.frontier_covers_loaded_iff_twoWorkers :
    Workload.ofProperties Workload.threeRecords = .ok Run.ofTwoWorkers.world.workload ∧
      Properties.orDefault Properties.getNatural Workload.threeRecords "insertstart" 0 = .ok 0 ∧
      (.load, 3) ∈ Run.ofTwoWorkers.schedule ∧
      ∃ history done, Interleaving Crew.twoLoaders history done ∧ done.Finished ∧
        (∀ event ∈ history, event.succeeds) ∧
        (∀ number, Loaded Crew.twoLoaders history number ↔ number.toNat < 2) ∧
        ¬∀ number ≤ done.world.workload.frontier.last,
          Loaded Crew.twoLoaders history number := by
  have accepted : Workload.ofProperties Workload.threeRecords =
      .ok Run.ofTwoWorkers.world.workload := Workload.ofProperties_threeRecords
  have scheduled : (.load, 3) ∈ Run.ofTwoWorkers.schedule := List.mem_cons_self
  rcases Crew.twoLoaders_done with ⟨history, done, loading, finished, successful⟩
  rcases Run.frontier_covers_loaded_iff accepted rfl scheduled loading finished successful with
    ⟨loaded, _, covers⟩
  have uneven : ¬Run.ofTwoWorkers.benchmark.threads ∣
      Run.ofTwoWorkers.world.workload.recordCount.toNat := by decide
  exact ⟨accepted, rfl, scheduled, history, done, loading, finished, successful, loaded,
    mt covers.mp uneven⟩

/-- The record with number two is covered after the load, and no insert was handed its
number. -/
theorem Run.not_every_covered_number_loaded :
    ∃ history done, Workload.ofProperties Workload.threeRecords =
        .ok Run.ofTwoWorkers.world.workload ∧
      Interleaving Crew.twoLoaders history done ∧ done.Finished ∧
      (∀ event ∈ history, event.succeeds) ∧
      2 ≤ done.world.workload.frontier.last ∧ ¬Loaded Crew.twoLoaders history 2 := by
  rcases Crew.twoLoaders_done with ⟨history, done, loading, finished, successful⟩
  have begins : Crew.twoLoaders.Begins .load 2 := Crew.opened_begins .load 2 3 _ _
  have covered : 2 ≤ done.world.workload.frontier.last :=
    (loading.le_last_iff_of_load rfl (by decide) begins.ready
      (loading.within begins.within).1).mpr (by decide)
  refine ⟨history, done, Workload.ofProperties_threeRecords, loading, finished, successful,
    covered, ?_⟩
  rw [loading.loaded_iff begins finished successful]
  decide

end StoreBench
