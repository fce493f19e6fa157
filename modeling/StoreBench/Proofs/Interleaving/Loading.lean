import Mathlib.Algebra.BigOperators.Group.Finset.Basic
import Mathlib.Data.Fintype.BigOperators
import StoreBench.Proofs.Interleaving.Served

namespace StoreBench

/-! Loading. While records are loaded, every number that was handed out is in the store or
on its way there. What was handed out and what is still to come add up, so when all workers
are done, all records are there. -/

/-! ## One phase -/

def Activity.Within (phase : Phase) : Activity → Prop
  | .ready => True
  | .asking other _ _ | .answered other _ _ => other = phase

def Worker.Within {σ H : Type} (phase : Phase) (worker : Worker σ H) : Prop :=
  (∀ other ∈ worker.ahead, other = phase) ∧ worker.activity.Within phase

section Within

variable {ι σ S H : Type} [DecidableEq ι] [WordSource σ] [Backend S H]
variable {crew next first last : Crew ι σ S H} {phase : Phase}

theorem Step.within {event : Event ι} (step : Step crew event next)
    (before : ∀ name, (crew.worker name).Within phase) :
    event.phase = phase ∧ ∀ name, (next.worker name).Within phase := by
  cases step with
  | @draw name _ _ _ _ _ _ ready drawn =>
      have within := before name
      rw [ready] at within
      rcases List.forall_mem_cons.mp within.1 with ⟨same, ahead⟩
      exact ⟨same, Crew.forall_move (fun _ worker => worker.Within phase) ⟨ahead, same⟩
        fun other _ => before other⟩
  | @askEarlier name _ _ _ _ _ _ _ _ _ asking answered =>
      have within := before name
      rw [asking] at within
      exact ⟨within.2, Crew.forall_move (fun _ worker => worker.Within phase) within
        fun other _ => before other⟩
  | @askDeciding name _ _ _ _ _ _ _ asking answered =>
      have within := before name
      rw [asking] at within
      exact ⟨within.2, Crew.forall_move (fun _ worker => worker.Within phase) within
        fun other _ => before other⟩
  | @settle name _ _ _ _ _ _ answered settled =>
      have within := before name
      rw [answered] at within
      exact ⟨within.2, Crew.forall_move (fun _ worker => worker.Within phase) ⟨within.1, trivial⟩
        fun other _ => before other⟩

theorem Interleaving.within {history : List (Event ι)}
    (start : ∀ name, (first.worker name).Within phase)
    (run : Interleaving first history last) :
    (∀ event ∈ history, event.phase = phase) ∧ ∀ name, (last.worker name).Within phase := by
  induction run with
  | start => exact ⟨by simp, start⟩
  | step earlier next induction =>
      rcases next.within induction.2 with ⟨here, after⟩
      refine ⟨?_, after⟩
      intro event member
      rcases List.mem_append.mp member with member | same
      · exact induction.1 event member
      · rw [List.mem_singleton.mp same]
        exact here

end Within

theorem Crew.opened_within {σ S H : Type} [Backend S H] (phase : Phase) (threads total : Nat)
    (sources : Nat → σ) (world : World S) (name : Fin threads) :
    ((Crew.opened phase threads total sources world).worker name).Within phase :=
  ⟨fun _ member => List.eq_of_mem_replicate member, trivial⟩

/-! ## Work that remains -/

section Remaining

variable {ι σ S H : Type} [DecidableEq ι] [Fintype ι]

def Crew.remaining (crew : Crew ι σ S H) : Nat := ∑ name, (crew.worker name).ahead.length

theorem Crew.remaining_move (crew : Crew ι σ S H) (name : ι) (worker : Worker σ H)
    (world : World S) :
    (crew.move name worker world).remaining + (crew.worker name).ahead.length =
      crew.remaining + worker.ahead.length := by
  have others : ∑ other ∈ Finset.univ.erase name,
        ((crew.move name worker world).worker other).ahead.length =
      ∑ other ∈ Finset.univ.erase name, (crew.worker other).ahead.length := by
    apply Finset.sum_congr rfl
    intro other member
    rw [move_worker_other crew worker world (Finset.ne_of_mem_erase member)]
  unfold remaining
  rw [← Finset.add_sum_erase _ _ (Finset.mem_univ name), others, move_worker_same,
    ← Finset.add_sum_erase _ (fun other => (crew.worker other).ahead.length)
      (Finset.mem_univ name)]
  omega

theorem Crew.remaining_of_draw {crew : Crew ι σ S H} {name : ι} {worker : Worker σ H}
    {world : World S} {phase : Phase} (taken : (crew.worker name).ahead = phase :: worker.ahead) :
    (crew.move name worker world).remaining + 1 = crew.remaining := by
  have moved := crew.remaining_move name worker world
  rw [taken, List.length_cons] at moved
  omega

theorem Crew.remaining_of_same {crew : Crew ι σ S H} {name : ι} {worker : Worker σ H}
    {world : World S} (same : (crew.worker name).ahead = worker.ahead) :
    (crew.move name worker world).remaining = crew.remaining := by
  have moved := crew.remaining_move name worker world
  rw [same] at moved
  omega

end Remaining

theorem Crew.remaining_of_finished {ι σ S H : Type} [Fintype ι] {crew : Crew ι σ S H}
    (finished : crew.Finished) : crew.remaining = 0 :=
  Finset.sum_eq_zero fun name _ =>
    List.length_eq_zero_iff.mpr (Worker.isDone_iff.mp (finished name)).1

theorem Crew.remaining_opened {σ S H : Type} [Backend S H] (phase : Phase)
    (threads total : Nat) (sources : Nat → σ) (world : World S) :
    (Crew.opened phase threads total sources world).remaining = threads * (total / threads) := by
  simp [remaining, opened]

/-! ## Records on their way -/

def Activity.Inserting (world : World Store) (number : UInt64) : Activity → Prop
  | .asking _ transaction [] => ∃ values, transaction.deciding =
      .insert world.workload.table (world.workload.keyName number) values
  | _ => False

/-- Loading has come this far: what was handed out and what remains make up the total, and
every number that was handed out is in the store or about to be inserted. -/
structure Crew.Loading {ι σ : Type} [DecidableEq ι] [Fintype ι] (total : Nat)
    (crew : Crew ι σ Store Unit) : Prop where
  remaining : crew.world.workload.keySequence.upcoming.toNat + crew.remaining = total
  present : ∀ number < crew.world.workload.keySequence.upcoming,
    crew.world.Holds number ∨
      ∃ name, (crew.worker name).activity.Inserting crew.world number

theorem World.Grown.inserting {world later : World Store} {activity : Activity}
    {number : UInt64} (grown : world.Grown later) (inserting : activity.Inserting world number) :
    activity.Inserting later number := by
  unfold Activity.Inserting at inserting ⊢
  rw [grown.toPlan]
  exact inserting

section Loading

variable {ι σ : Type} [DecidableEq ι] {crew next : Crew ι σ Store Unit}

theorem Crew.present_move {name : ι} {worker : Worker σ Unit} {world : World Store}
    {number : UInt64} (grown : crew.world.Grown world)
    (own : (crew.worker name).activity.Inserting crew.world number → world.Holds number)
    (present : crew.world.Holds number ∨
      ∃ other, (crew.worker other).activity.Inserting crew.world number) :
    world.Holds number ∨
      ∃ other, ((crew.move name worker world).worker other).activity.Inserting world number := by
  rcases present with holds | ⟨other, inserting⟩
  · exact .inl (grown.holds holds)
  · by_cases same : other = name
    · subst same
      exact .inl (own inserting)
    · refine .inr ⟨other, ?_⟩
      rw [move_worker_other crew worker world same]
      exact grown.inserting inserting

variable [Fintype ι]

theorem Crew.Loading.move {total : Nat} {name : ι} {worker : Worker σ Unit}
    {world : World Store} (loading : crew.Loading total) (grown : crew.world.Grown world)
    (numbers : world.workload.keySequence = crew.world.workload.keySequence)
    (same : (crew.worker name).ahead = worker.ahead)
    (own : ∀ number, (crew.worker name).activity.Inserting crew.world number →
      world.Holds number) : (crew.move name worker world).Loading total where
  remaining := by
    rw [move_world, numbers, remaining_of_same same]
    exact loading.remaining
  present number early := by
    rw [move_world, numbers] at early
    exact present_move grown (own number) (loading.present number early)

theorem Crew.Loading.holds {total : Nat} (loading : crew.Loading total)
    (finished : crew.Finished) {number : UInt64} (early : number.toNat < total) :
    crew.world.Holds number := by
  have none := Crew.remaining_of_finished finished
  have upcoming := loading.remaining
  have handedOut : number < crew.world.workload.keySequence.upcoming := by
    rw [UInt64.lt_iff_toNat_lt]
    omega
  rcases loading.present number handedOut with holds | ⟨name, inserting⟩
  · exact holds
  · rw [(Worker.isDone_iff.mp (finished name)).2] at inserting
    cases inserting

variable [WordSource σ]

theorem Step.loading_of_draw {name : ι} {transaction : Transaction} {total : Nat}
    (step : Step crew (.drew name .load transaction) next) (stocked : crew.Stocked)
    (loading : crew.Loading total) (bounded : total < 2 ^ 64) : next.Loading total := by
  have grown := step.grown stocked
  have drawn := step.drawn
  cases step with
  | @draw _ _ ahead _ after _ world ready made =>
      have fewer : (crew.move name
          ⟨after, ahead, .asking .load transaction transaction.earlier⟩ world).remaining + 1 =
        crew.remaining := Crew.remaining_of_draw (congrArg Worker.ahead ready)
      have sum := loading.remaining
      cases drawn with
      | load values same =>
          have numbers : world.workload.keySequence.upcoming =
              crew.world.workload.keySequence.upcoming + 1 :=
            congrArg Counter.upcoming (Workload.keySequence_eq_of_bare same)
          have advanced : world.workload.keySequence.upcoming.toNat =
              crew.world.workload.keySequence.upcoming.toNat + 1 := by
            rw [numbers, UInt64.toNat_add, UInt64.toNat_one]
            omega
          refine ⟨?_, fun number early => ?_⟩
          · rw [Crew.move_world, advanced]
            omega
          · by_cases same : number = crew.world.workload.keySequence.upcoming
            -- The new number is with the worker that has drawn it, the earlier ones are
            -- where they were.
            · subst same
              refine .inr ⟨name, ?_⟩
              rw [Crew.move_worker_same]
              refine grown.inserting ⟨values, rfl⟩
            · apply Crew.present_move grown
              · rw [ready]
                exact False.elim
              · apply loading.present
                rw [Crew.move_world, UInt64.lt_iff_toNat_lt, advanced] at early
                rw [UInt64.lt_iff_toNat_lt]
                have different := mt UInt64.toNat_inj.mp same
                omega

theorem Step.loading {event : Event ι} {total : Nat} (step : Step crew event next)
    (stocked : crew.Stocked) (loading : crew.Loading total) (load : event.phase = .load)
    (bounded : total < 2 ^ 64) : next.Loading total := by
  cases step with
  | draw ready drawn =>
      cases load
      exact (Step.draw ready drawn).loading_of_draw stocked loading bounded
  | askEarlier asking answered =>
      have grown := (Step.askEarlier asking answered).grown stocked
      rcases Session.ask_store answered with ⟨rfl, rfl⟩
      refine loading.move grown rfl (by rw [asking]) fun number => ?_
      rw [asking]
      exact False.elim
  | askDeciding asking answered =>
      have grown := (Step.askDeciding asking answered).grown stocked
      rcases Session.ask_store answered with ⟨rfl, rfl⟩
      refine loading.move grown rfl (by rw [asking]) fun number => ?_
      rw [asking]
      intro form
      rcases form with ⟨values, deciding⟩
      rw [deciding]
      exact stocked.keeping.has_insert values
  | settle answered settled =>
      have grown := (Step.settle answered settled).grown stocked
      rcases Workload.settle_eq_ok_iff.mp settled with ⟨frontier, _, rfl⟩
      refine loading.move grown rfl (by rw [answered]) fun number => ?_
      rw [answered]
      exact False.elim

theorem Interleaving.loading {first last : Crew ι σ Store Unit} {history : List (Event ι)}
    {total : Nat} (stocked : first.Stocked) (loading : first.Loading total)
    (bounded : total < 2 ^ 64)
    (fresh : first.world.workload.frontier = .startingAt first.world.workload.recordCount)
    (positive : 0 < first.world.workload.recordCount)
    (run : Interleaving first history last) (load : ∀ event ∈ history, event.phase = .load) :
    last.Loading total := by
  induction run with
  | start => exact loading
  | @step history event middle last earlier next induction =>
      have loadEarlier : ∀ event ∈ history, event.phase = .load :=
        fun other member => load other (List.mem_append_left _ member)
      have supplied := earlier.supplied stocked fresh positive (.inl loadEarlier)
      exact next.loading supplied.stocked (induction loadEarlier) (load event (by simp)) bounded

end Loading
end StoreBench
