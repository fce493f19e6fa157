import Mathlib.Data.List.Forall2
import StoreBench.Proofs.Interleaving.Schedules
import StoreBench.Proofs.Interleaving.Sequential
import StoreBench.Proofs.Session.Performed

namespace StoreBench

/-! What each worker has done. The history of a run says which outcomes a worker has had, one for
each transaction that it has drawn and settled, with the calls that were answered for it. A worker
that is done has had an outcome for every transaction that it had ahead of it. -/

structure Progress where
  outcomes : List Outcome
  calls : List Call

namespace Progress

variable {ι : Type}

def none : Progress := ⟨[], []⟩

def after (progress : Progress) : Event ι → Progress
  | .drew .. => progress
  | .asked _ _ _ request answer =>
      { progress with calls := progress.calls ++ [.exchange request answer] }
  | .settled _ _ transaction status =>
      ⟨progress.outcomes ++ [⟨transaction.operation, status, progress.calls⟩], []⟩

def answered (progress : Progress) : List Call :=
  progress.outcomes.flatMap Outcome.calls ++ progress.calls

theorem answered_after (progress : Progress) (event : Event ι) :
    (progress.after event).answered = progress.answered ++ event.call?.toList := by
  cases event <;> simp [after, answered, Event.call?]

end Progress

section Histories

variable {ι : Type} [DecidableEq ι]

def progressOf (name : ι) (history : List (Event ι)) : Progress :=
  (history.filter fun event => event.worker = name).foldl Progress.after .none

def outcomesOf (name : ι) (history : List (Event ι)) : List Outcome :=
  (progressOf name history).outcomes

theorem progressOf_concat (name : ι) (history : List (Event ι)) (event : Event ι) :
    progressOf name (history ++ [event]) =
      if event.worker = name then (progressOf name history).after event
      else progressOf name history := by
  by_cases same : event.worker = name <;> simp [progressOf, same]

end Histories

def Worker.unsettled {σ H : Type} (worker : Worker σ H) : Nat :=
  worker.ahead.length + match worker.activity with
    | .ready => 0
    | .asking .. | .answered .. => 1

def Activity.Busy (calls : List Call) : Activity → List Transaction → Prop
  | .ready, busy => busy = [] ∧ calls = []
  | .asking _ transaction earlier, busy =>
      busy = [transaction] ∧ ∃ asked, transaction.earlier = asked ++ earlier ∧
        calls.map Call.request? = asked.map some
  | .answered _ transaction status, busy =>
      busy = [transaction] ∧ Outcome.CameOf ⟨transaction.operation, status, calls⟩ transaction

/-- A worker has had an outcome for each transaction that it has drawn, but for the one that it is
busy with. -/
structure Worker.Progressed {σ H : Type} (total : Nat) (made : List Transaction)
    (progress : Progress) (worker : Worker σ H) : Prop where
  count : progress.outcomes.length + worker.unsettled = total
  settled : ∃ done busy, made = done ++ busy ∧ worker.activity.Busy progress.calls busy ∧
    List.Forall₂ Outcome.CameOf progress.outcomes done

theorem Worker.Progressed.of_isDone {σ H : Type} {worker : Worker σ H} {total : Nat}
    {made : List Transaction} {progress : Progress}
    (progressed : worker.Progressed total made progress) (isDone : worker.isDone) :
    progress.outcomes.length = total ∧ progress.calls = [] ∧
      List.Forall₂ Outcome.CameOf progress.outcomes made := by
  rcases Worker.isDone_iff.mp isDone with ⟨ahead, ready⟩
  rcases progressed with ⟨count, done, busy, rfl, doing, came⟩
  rw [ready] at doing
  rcases doing with ⟨rfl, none⟩
  refine ⟨?_, none, ?_⟩
  · simpa [Worker.unsettled, ahead, ready] using count
  · rwa [List.append_nil]

section Steps

variable {ι σ S H : Type} [DecidableEq ι] [WordSource σ] [Backend S H]
variable {crew next first last : Crew ι σ S H} {history : List (Event ι)} {event : Event ι}
variable {name : ι} {total : Nat}

theorem Step.progressed (step : Step crew event next)
    (progressed : (crew.worker name).Progressed total (drawnBy name history)
      (progressOf name history)) :
    (next.worker name).Progressed total (drawnBy name (history ++ [event]))
      (progressOf name (history ++ [event])) := by
  rw [drawnBy_concat, progressOf_concat]
  by_cases same : event.worker = name
  -- A transaction moves from those ahead to the busy one, and from there to the settled ones.
  · subst same
    rw [if_pos rfl]
    rcases progressed with ⟨count, done, busy, made, doing, came⟩
    cases step with
    | draw ready drawn =>
        simp only [Event.worker, ready] at count made doing came
        rcases doing with ⟨rfl, none⟩
        simp only [Event.worker, Event.drawnBy, Crew.move_worker_same, if_true]
        refine ⟨?_, done, _, ?_, ⟨rfl, [], rfl, ?_⟩, came⟩
        · simp only [Worker.unsettled, List.length_cons] at count ⊢
          simp only [Progress.after]
          omega
        · rw [made, List.append_nil]
        · simp [Progress.after, none]
    | @askEarlier _ _ _ _ _ _ request _ _ _ asking answered =>
        simp only [Event.worker, asking] at count made doing came
        rcases doing with ⟨rfl, asked, split, exchanged⟩
        simp only [Event.worker, Event.drawnBy, Crew.move_worker_same, List.append_nil]
        refine ⟨count, done, _, made, ⟨rfl, asked ++ [request], ?_, ?_⟩, came⟩
        · rw [split, List.append_assoc, List.singleton_append]
        · simp only [Progress.after, List.map_append, exchanged]
          rfl
    | @askDeciding _ _ _ _ _ transaction answer _ asking answered =>
        simp only [Event.worker, asking] at count made doing came
        rcases doing with ⟨rfl, asked, split, exchanged⟩
        rw [List.append_nil] at split
        simp only [Event.worker, Event.drawnBy, Crew.move_worker_same, List.append_nil]
        refine ⟨count, done, _, made, ⟨rfl, rfl, ?_, answer, List.getLast?_concat, rfl⟩, came⟩
        simp only [Progress.after, List.map_append, exchanged, Transaction.requests, split]
        rfl
    | settle answered settled =>
        simp only [Event.worker, answered] at count made doing came
        rcases doing with ⟨rfl, finished⟩
        simp only [Event.worker, Event.drawnBy, Crew.move_worker_same, List.append_nil]
        refine ⟨?_, _, [], by rw [made, List.append_nil], ⟨rfl, rfl⟩, ?_⟩
        · simp only [Worker.unsettled] at count ⊢
          simp only [Progress.after, List.length_append, List.length_singleton]
          omega
        · exact List.rel_append came (.cons finished .nil)
  · rw [Event.drawnBy_of_other same, step.worker_of_other same, if_neg same, List.append_nil]
    exact progressed

theorem Interleaving.progressed (ready : ∀ name, (first.worker name).activity = .ready)
    (run : Interleaving first history last) (name : ι) :
    (last.worker name).Progressed (first.worker name).ahead.length (drawnBy name history)
      (progressOf name history) := by
  induction run with
  | start =>
      refine ⟨?_, [], [], rfl, ?_, .nil⟩
      · simp [Worker.unsettled, ready name, progressOf, Progress.none]
      · rw [ready name]
        exact ⟨rfl, rfl⟩
  | step earlier next induction => exact next.progressed induction

end Steps

end StoreBench
