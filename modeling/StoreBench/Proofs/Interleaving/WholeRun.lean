import StoreBench.Benchmark.Run
import StoreBench.Proofs.Configured
import StoreBench.Proofs.Interleaving.Loading

namespace StoreBench

/-! A whole run, from the first record that is loaded to the last transaction. Transactions
are aimed at records that are loaded or known to be inserted, so every call finds what it
asks for. -/

section Opened

variable {σ : Type} {threads total : Nat} {sources : Nat → σ} {world : World Store}

theorem Crew.opened_stocked (phase : Phase) (keeping : world.store.Keeping) :
    (Crew.opened phase threads total sources world).Stocked :=
  ⟨keeping, fun _ => trivial⟩

theorem Crew.opened_loading (zero : world.workload.keySequence = .startingAt 0)
    (even : threads ∣ total) : (Crew.opened .load threads total sources world).Loading total := by
  have upcoming : world.workload.keySequence.upcoming = 0 := congrArg Counter.upcoming zero
  refine ⟨?_, fun number early => ?_⟩
  · rw [remaining_opened, Nat.mul_div_cancel' even]
    simp [opened, upcoming]
  · have early : number < world.workload.keySequence.upcoming := early
    rw [upcoming] at early
    exact absurd early UInt64.not_lt_zero

end Opened

/-- What holds between the phases of a run: all records are loaded, and the frontier stands
right below their number. -/
structure World.Loaded (world : World Store) : Prop where
  keeping : world.store.Keeping
  fresh : world.workload.frontier = .startingAt world.workload.recordCount
  holds : ∀ number < world.workload.recordCount, world.Holds number

section Phases

variable {σ : Type} [WordSource σ] {threads : Nat} {sources : Nat → σ} {world : World Store}
variable {history : List (Event (Fin threads))} {crew : Crew (Fin threads) σ Store Unit}

theorem Interleaving.supplied_of_load {total : Nat} (keeping : world.store.Keeping)
    (fresh : world.workload.frontier = .startingAt world.workload.recordCount)
    (positive : 0 < world.workload.recordCount)
    (run : Interleaving (Crew.opened .load threads total sources world) history crew) :
    (∀ event ∈ history, event.phase = .load) ∧
      Supplied (Crew.opened .load threads total sources world) history crew := by
  have load := (run.within (Crew.opened_within .load threads total sources world)).1
  exact ⟨load, run.supplied (Crew.opened_stocked .load keeping) fresh positive (.inl load)⟩

theorem Interleaving.supplied_of_loaded {total : Nat} (loaded : world.Loaded)
    (positive : 0 < world.workload.recordCount)
    (run : Interleaving (Crew.opened .transactions threads total sources world) history crew) :
    (∀ event ∈ history, event.phase = .transactions) ∧
      Supplied (Crew.opened .transactions threads total sources world) history crew := by
  have within := (run.within (Crew.opened_within .transactions threads total sources world)).1
  exact ⟨within, run.supplied (Crew.opened_stocked .transactions loaded.keeping) loaded.fresh
    positive (.inr loaded.holds)⟩

theorem Interleaving.loaded (keeping : world.store.Keeping)
    (fresh : world.workload.frontier = .startingAt world.workload.recordCount)
    (positive : 0 < world.workload.recordCount)
    (zero : world.workload.keySequence = .startingAt 0)
    (even : threads ∣ world.workload.recordCount.toNat)
    (run : Interleaving
      (Crew.opened .load threads world.workload.recordCount.toNat sources world) history crew)
    (finished : crew.Finished) : crew.world.Loaded := by
  rcases run.supplied_of_load keeping fresh positive with ⟨load, supplied⟩
  have loading := run.loading (Crew.opened_stocked .load keeping)
    (Crew.opened_loading zero even) (UInt64.toNat_lt _) fresh positive load
  have plan := supplied.grown.toPlan
  refine ⟨supplied.stocked.keeping, ?_, fun number early => ?_⟩
  · rw [run.frontier_eq_of_load (fun _ => rfl) load, plan]
    exact fresh
  · rw [plan] at early
    exact loading.holds finished (UInt64.lt_iff_toNat_lt.mp early)

end Phases

theorem Drawn.outcome {before after : Workload} {phase : Phase} {transaction : Transaction}
    (drawn : Drawn before phase transaction after) {request : Request}
    (member : request ∈ transaction.requests) (store : Store) :
    store.outcome request =
      if transaction.operation = .scan then store.scanOutcome else .ok := by
  cases drawn with
  | readModifyWrite =>
      simp only [Transaction.requests, List.mem_append, List.mem_singleton] at member
      rcases member with rfl | rfl <;> rfl
  | load | insert | read | update | scan =>
      cases List.mem_singleton.mp member
      rfl

/-- In a whole run on a store that keeps records, the load phase does nothing but insert, and
every call is answered with success, except that shards do not scan. -/
theorem Run.calls_answered {σ : Type} [WordSource σ] {properties : Properties}
    {run : Run Store} {sources : Phase → Nat → σ} {phase : Phase}
    {history : List (Event (Fin run.benchmark.threads))}
    {crew : Crew (Fin run.benchmark.threads) σ Store Unit}
    (accepted : Workload.ofProperties properties = .ok run.world.workload)
    (fromZero : Properties.orDefault Properties.getNatural properties "insertstart" 0 = .ok 0)
    (keeping : run.world.store.Keeping) (loads : run.benchmark.skipLoad = false)
    (even : run.benchmark.threads ∣ run.world.workload.recordCount.toNat)
    (underway : Underway run.benchmark.threads sources run.world run.schedule phase history crew)
    {name : Fin run.benchmark.threads} {current : Phase} {transaction : Transaction}
    {request : Request} {answer : Answer}
    (asked : .asked name current transaction request answer ∈ history) :
    (phase = .load → transaction.operation = .insert) ∧ answer.status =
      if transaction.operation = .scan then run.world.store.scanOutcome else .ok := by
  have configured := Workload.configured_of_ofProperties accepted
  have positive := configured.recordCount_positive
  have zero : run.world.workload.keySequence = .startingAt 0 := by
    rcases configured.keySequence with ⟨first, read, same⟩
    cases fromZero.symm.trans read
    exact same
  have schedule : run.schedule = [(.load, run.world.workload.recordCount.toNat),
      (.transactions, run.world.workload.transactionCount.toNat)] := by
    simp [Run.schedule, loads]
  rw [schedule] at underway
  cases underway with
  | current loading =>
      rcases loading.supplied_of_load keeping configured.frontier positive with ⟨load, supplied⟩
      rcases loading.drew_of_asked (fun _ => rfl) asked with ⟨drew, member⟩
      rcases loading.drawn_of_drew drew with ⟨before, after, drawn, _⟩
      rw [← drawn.outcome member]
      refine ⟨fun _ => ?_, supplied.outcome name current transaction request answer asked⟩
      have here : current = .load := load _ asked
      subst here
      cases drawn
      rfl
  | later loading finished next =>
      -- The load is done, so the transactions begin in a world where all records are there.
      have loaded := loading.loaded keeping configured.frontier positive zero even finished
      have grown : run.world.Grown _ :=
        (loading.supplied_of_load keeping configured.frontier positive).2.grown
      cases next with
      | current running =>
          rw [← grown.toPlan] at positive
          rcases running.supplied_of_loaded loaded positive with ⟨_, supplied⟩
          rcases running.drew_of_asked (fun _ => rfl) asked with ⟨drew, member⟩
          rcases running.drawn_of_drew drew with ⟨before, after, drawn, _⟩
          refine ⟨nofun, ?_⟩
          rw [← drawn.outcome member, ← Store.outcome_congr grown.scanOutcome]
          exact supplied.outcome name current transaction request answer asked
      | later _ _ none => cases none

def Run.ofTwoShards : Run Store where
  storeName := "hashmap"
  benchmark := ⟨2, Nat.two_pos, false, false, none, .hidden, false⟩
  world := ⟨.ofEveryOperation, .sharded (.make (fun _ => 0) 2 Nat.two_pos)⟩

def Run.twoScripts (_ : Phase) (worker : Nat) : Script :=
  .ofList [Workload.wordFor (if worker = 0 then .readModifyWrite else .scan)]

def Event.calledFor? {ι : Type} : Event ι → Option Operation
  | .asked _ _ transaction _ _ => some transaction.operation
  | _ => none

/-- The scan is refused between the read and the update of the other worker, which both succeed. -/
theorem Run.calls_answered_twoShards :
    Workload.ofProperties Workload.everyOperation = .ok Run.ofTwoShards.world.workload ∧
      Properties.orDefault Properties.getNatural Workload.everyOperation "insertstart" 0 = .ok 0 ∧
      Run.ofTwoShards.world.store.Keeping ∧ Run.ofTwoShards.benchmark.skipLoad = false ∧
      Run.ofTwoShards.benchmark.threads ∣ Run.ofTwoShards.world.workload.recordCount.toNat ∧
      ∃ history crew,
        Underway 2 twoScripts Run.ofTwoShards.world Run.ofTwoShards.schedule .transactions
          history crew ∧
        history.map Event.worker = [0, 1, 0, 1, 0, 0, 1] ∧
        history.filterMap Event.calledFor? = [.readModifyWrite, .scan, .readModifyWrite] ∧
        ∀ name current transaction request answer,
          .asked name current transaction request answer ∈ history →
          answer.status = if transaction.operation = .scan then .notImplemented else .ok := by
  have accepted : Workload.ofProperties Workload.everyOperation =
      .ok Run.ofTwoShards.world.workload := Workload.ofProperties_everyOperation
  have even : Run.ofTwoShards.benchmark.threads ∣
    Run.ofTwoShards.world.workload.recordCount.toNat := dvd_rfl
  have moved : ((Crew.opened .load 2 2 (twoScripts .load) Run.ofTwoShards.world).follow
      [0, 1, 0, 1, 1, 0]).bind (fun loaded =>
        ((Crew.opened .transactions 2 2 (twoScripts .transactions) loaded.2.world).follow
          [0, 1, 0, 1, 0, 0, 1]).map fun run => (decide loaded.2.Finished,
            run.1.map Event.worker, run.1.filterMap Event.calledFor?)) =
      some (true, [0, 1, 0, 1, 0, 0, 1], [.readModifyWrite, .scan, .readModifyWrite]) := by
    decide +kernel
  rcases Option.bind_eq_some_iff.mp moved with ⟨⟨past, done⟩, loaded, rest⟩
  rcases Option.map_eq_some_iff.mp rest with ⟨⟨history, crew⟩, followed, equal⟩
  simp only [Prod.mk.injEq, decide_eq_true_eq] at equal
  rcases equal with ⟨finished, overlap, called⟩
  have underway : Underway 2 twoScripts Run.ofTwoShards.world Run.ofTwoShards.schedule
      .transactions history crew :=
    .later (Interleaving.start.of_follow loaded) finished
      (.current (Interleaving.start.of_follow followed))
  refine ⟨accepted, rfl, trivial, rfl, even, history, crew, underway, overlap, called, ?_⟩
  intro name current transaction request answer asked
  exact (Run.calls_answered accepted rfl trivial rfl even underway asked).2

end StoreBench
