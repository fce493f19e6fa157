import StoreBench.Proofs.Interleaving.Loading

namespace StoreBench

/-! Numbers for inserts. Every insert is handed the upcoming number of the key sequence when
it is drawn, so the inserts of a run get consecutive numbers, whoever draws them and
whatever the store answers. A phase of loads hands out as many as it has transactions. -/

/-! ## Consecutive numbers -/

/-- As many numbers as wanted, one after the other. After the largest word they start again
from zero. -/
def numbersFrom (start : UInt64) (count : Nat) : List UInt64 :=
  (List.range count).map fun index => start + .ofNat index

theorem mem_numbersFrom_iff {start number : UInt64} {count : Nat} :
    number ∈ numbersFrom start count ↔ ∃ index < count, start + .ofNat index = number := by
  simp [numbersFrom]

@[simp] theorem length_numbersFrom (start : UInt64) (count : Nat) :
    (numbersFrom start count).length = count := by
  simp [numbersFrom]

theorem mem_numbersFrom_of_between {start number : UInt64} {count : Nat}
    (lower : start.toNat ≤ number.toNat) (upper : number.toNat < start.toNat + count) :
    number ∈ numbersFrom start count := by
  refine mem_numbersFrom_iff.mpr ⟨number.toNat - start.toNat, by omega, ?_⟩
  rw [← UInt64.toNat_inj, UInt64.toNat_add, UInt64.toNat_ofNat']
  have bound := number.toNat_lt
  omega

theorem mem_numbersFrom_iff_of_room {start number : UInt64} {count : Nat}
    (room : start.toNat + count ≤ 2 ^ 64) :
    number ∈ numbersFrom start count ↔
      start.toNat ≤ number.toNat ∧ number.toNat < start.toNat + count := by
  constructor
  · intro member
    rcases mem_numbersFrom_iff.mp member with ⟨index, early, rfl⟩
    rw [UInt64.toNat_add, UInt64.toNat_ofNat']
    omega
  · intro between
    exact mem_numbersFrom_of_between between.1 between.2

theorem nodup_numbersFrom {start : UInt64} {count : Nat} (room : count ≤ 2 ^ 64) :
    (numbersFrom start count).Nodup := by
  refine List.Nodup.map_on ?_ List.nodup_range
  intro left leftEarly right rightEarly same
  rw [List.mem_range] at leftEarly rightEarly
  have numeric := congrArg UInt64.toNat ((UInt64.add_right_inj start).mp same)
  rw [UInt64.toNat_ofNat', UInt64.toNat_ofNat'] at numeric
  omega

/-! ## Beginnings and ends of phases -/

section Phases

variable {ι σ S H : Type} [Fintype ι] {crew : Crew ι σ S H}

structure Crew.Begins (crew : Crew ι σ S H) (phase : Phase) (total : Nat) : Prop where
  ready : ∀ name, (crew.worker name).activity = .ready
  ahead : ∀ name, ∀ other ∈ (crew.worker name).ahead, other = phase
  remaining : crew.remaining = total

theorem Crew.Begins.within {phase : Phase} {total : Nat} (begins : crew.Begins phase total)
    (name : ι) : (crew.worker name).Within phase := by
  refine ⟨begins.ahead name, ?_⟩
  rw [begins.ready name]
  trivial

theorem Crew.opened_begins [Backend S H] (phase : Phase) (threads total : Nat)
    (sources : Nat → σ) (world : World S) :
    (Crew.opened phase threads total sources world).Begins phase
      (threads * (total / threads)) where
  ready _ := rfl
  ahead _ _ member := List.eq_of_mem_replicate member
  remaining := remaining_opened phase threads total sources world

end Phases

/-! ## Inserts -/

def Event.isInsert {ι : Type} : Event ι → Bool
  | .drew _ _ transaction => transaction.operation = .insert
  | _ => false

def Event.succeeds {ι : Type} : Event ι → Bool
  | .asked _ _ transaction _ answer =>
      transaction.operation ≠ .insert || answer.status.isOk
  | _ => true

def inserts {ι : Type} (history : List (Event ι)) : Nat := history.countP Event.isInsert

theorem inserts_concat {ι : Type} (history : List (Event ι)) (event : Event ι) :
    inserts (history ++ [event]) = inserts history + if event.isInsert then 1 else 0 := by
  simp [inserts, List.countP_append, List.countP_cons]

theorem inserts_lt {ι : Type} {past later : List (Event ι)} {event : Event ι}
    (isInsert : event.isInsert) : inserts past < inserts (past ++ event :: later) := by
  simp only [inserts, List.countP_append, List.countP_cons, isInsert, if_true]
  omega

def Crew.upcoming {ι σ S H : Type} (crew : Crew ι σ S H) : UInt64 :=
  crew.world.workload.keySequence.upcoming

variable {ι σ S H : Type} [DecidableEq ι] [WordSource σ] [Backend S H]

/-- A number was handed to an insert: it was the upcoming one when the insert was drawn. -/
structure Handed (first : Crew ι σ S H) (past : List (Event ι)) (event : Event ι)
    (number : UInt64) : Prop where
  isInsert : event.isInsert
  upcoming : ∃ before, Interleaving first past before ∧ before.upcoming = number

def Dispensed (first : Crew ι σ S H) (history : List (Event ι)) (number : UInt64) : Prop :=
  ∃ past event later, history = past ++ event :: later ∧ Handed first past event number

theorem Drawn.upcoming_eq {before after : Workload} {phase : Phase} {transaction : Transaction}
    (drawn : Drawn before phase transaction after) :
    after.keySequence.upcoming =
      before.keySequence.upcoming + if transaction.operation = .insert then 1 else 0 := by
  cases drawn with
  | load values same | insert values same =>
      exact congrArg Counter.upcoming (Workload.keySequence_eq_of_bare same)
  | read _ _ _ same | update _ _ _ same | scan _ _ _ _ same | readModifyWrite _ _ _ _ same =>
      rw [Workload.keySequence_eq_of_bare same]
      exact (UInt64.add_zero _).symm

theorem Step.upcoming_eq {crew next : Crew ι σ S H} {event : Event ι}
    (step : Step crew event next) :
    next.upcoming = crew.upcoming + if event.isInsert then 1 else 0 := by
  cases step with
  | draw ready drawn =>
      have upcoming := (Step.draw ready drawn).drawn.upcoming_eq
      simpa [Crew.upcoming, Event.isInsert] using upcoming
  | askEarlier asking answered | askDeciding asking answered =>
      simp [Crew.upcoming, Event.isInsert, Session.ask_workload answered]
  | settle answered settled =>
      rcases Workload.settle_eq_ok_iff.mp settled with ⟨frontier, _, rfl⟩
      simp [Crew.upcoming, Event.isInsert]

theorem Interleaving.upcoming_eq {first last : Crew ι σ S H} {history : List (Event ι)}
    (run : Interleaving first history last) :
    last.upcoming = first.upcoming + .ofNat (inserts history) := by
  induction run with
  | start => simp [inserts]
  | @step _ event _ _ earlier next induction =>
      rw [next.upcoming_eq, induction, inserts_concat]
      cases event.isInsert <;> simp [UInt64.add_assoc]

theorem Handed.upcoming_eq {first before : Crew ι σ S H} {past : List (Event ι)}
    {event : Event ι} {number : UInt64} (handed : Handed first past event number)
    (run : Interleaving first past before) : before.upcoming = number := by
  rcases handed.upcoming with ⟨other, reached, rfl⟩
  exact run.upcoming_eq.trans reached.upcoming_eq.symm

namespace Interleaving

variable {first last : Crew ι σ S H} {history past later : List (Event ι)} {event : Event ι}

theorem dispensed_iff (run : Interleaving first history last) {number : UInt64} :
    Dispensed first history number ↔
      number ∈ numbersFrom first.upcoming (inserts history) := by
  rw [mem_numbersFrom_iff]
  constructor
  · intro dispensed
    rcases dispensed with ⟨past, event, later, rfl, isInsert, before, reached, rfl⟩
    exact ⟨inserts past, inserts_lt isInsert, reached.upcoming_eq.symm⟩
  · intro early
    rcases early with ⟨index, early, same⟩
    induction run with
    | start => cases early
    | @step history event middle last earlier next induction =>
        rw [inserts_concat] at early
        by_cases before : index < inserts history
        · rcases induction before with ⟨past, other, later, rfl, handed⟩
          exact ⟨past, other, later ++ [event], by simp, handed⟩
        -- The number is none of those handed out before, so this step hands it out.
        · cases isInsert : event.isInsert with
          | false =>
              rw [isInsert] at early
              exact absurd early before
          | true =>
              rw [isInsert, if_pos rfl] at early
              have here : index = inserts history := by omega
              refine ⟨history, event, [], rfl, isInsert, middle, earlier, ?_⟩
              rw [earlier.upcoming_eq, ← here, same]

/-! ## Points of a run -/

theorem before_last (run : Interleaving first (past ++ [event]) last) :
    ∃ middle, Interleaving first past middle ∧ Step middle event last := by
  generalize whole : past ++ [event] = history at run
  cases run with
  | start => simp at whole
  | step earlier next =>
      rcases List.append_inj' whole rfl with ⟨rfl, same⟩
      cases same
      exact ⟨_, earlier, next⟩

theorem at_event (run : Interleaving first (past ++ event :: later) last) :
    ∃ before after, Interleaving first past before ∧ Step before event after := by
  induction later using List.reverseRecOn generalizing last with
  | nil =>
      rcases run.before_last with ⟨before, earlier, step⟩
      exact ⟨before, last, earlier, step⟩
  | append_singleton later other induction =>
      rw [← List.cons_append, ← List.append_assoc] at run
      rcases run.before_last with ⟨middle, earlier, _⟩
      exact induction earlier

end Interleaving

/-! ## Loads -/

section Load

variable [Fintype ι] {crew next first last : Crew ι σ S H} {history : List (Event ι)}
variable {total : Nat}

theorem Step.remaining_of_load {event : Event ι} (step : Step crew event next)
    (load : event.phase = .load) :
    next.remaining + (if event.isInsert then 1 else 0) = crew.remaining := by
  cases step with
  | draw ready drawn =>
      -- Whatever a load draws is an insert.
      have made := (Step.draw ready drawn).drawn
      cases load
      cases made
      exact Crew.remaining_of_draw (congrArg Worker.ahead ready)
  | askEarlier asking answered | askDeciding asking answered =>
      exact Crew.remaining_of_same (by rw [asking])
  | settle answered settled => exact Crew.remaining_of_same (by rw [answered])

theorem Interleaving.remaining_of_load (run : Interleaving first history last)
    (load : ∀ event ∈ history, event.phase = .load) :
    last.remaining + inserts history = first.remaining := by
  induction run with
  | start => rfl
  | @step history event _ _ earlier next induction =>
      have before := induction fun other member => load other (List.mem_append_left _ member)
      have here := next.remaining_of_load (load event (by simp))
      rw [inserts_concat]
      omega

theorem Interleaving.inserts_of_load (begins : first.Begins .load total)
    (run : Interleaving first history last) (finished : last.Finished) :
    inserts history = total := by
  have counted := run.remaining_of_load (run.within begins.within).1
  rw [Crew.remaining_of_finished finished, begins.remaining] at counted
  omega

end Load
end StoreBench
