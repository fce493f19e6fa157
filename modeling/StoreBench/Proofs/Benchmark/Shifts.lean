import StoreBench.Proofs.Benchmark.Counting
import StoreBench.Proofs.Interleaving.Progress

namespace StoreBench

/-! A phase with all that its workers do. Each of them opens a handle and waits until all others
have done so, then works through its transactions, closes its handle and hands in what it has
measured. Apart from that wait, workers move in any order, and what they measure takes any time.
When all of them are gone, their measurements make up the report of the phase. -/

inductive Stage where
  | spawned
  | waiting
  | working
  | gone
  deriving DecidableEq

namespace Stage

def opening : Stage → List Call
  | .spawned => []
  | _ => [.start]

def closing : Stage → List Call
  | .gone => [.cleanup]
  | _ => []

end Stage

structure Post where
  stage : Stage
  calls : List Call
  measurement : Measurement

namespace Post

variable {ι : Type}

def sees (post : Post) (call : Call) : Post := { post with calls := post.calls ++ [call] }

/-- The post of a worker after one of its steps. An operation is measured when it is settled. -/
def after (elapsed : Nat) (post : Post) : Event ι → Post
  | .drew .. => post
  | .asked _ _ _ request answer => post.sees (.exchange request answer)
  | .settled _ _ transaction status =>
      { post with
        measurement := post.measurement.record transaction.operation status.isOk elapsed }

@[simp] theorem stage_after (post : Post) (elapsed : Nat) (event : Event ι) :
    (post.after elapsed event).stage = post.stage := by
  cases event <;> rfl

theorem calls_after (post : Post) (elapsed : Nat) (event : Event ι) :
    (post.after elapsed event).calls = post.calls ++ event.call?.toList := by
  cases event <;> simp [after, sees, Event.call?]

end Post

structure Shift (ι σ S H : Type) where
  crew : Crew ι σ S H
  post : ι → Post

namespace Shift

variable {ι σ S H : Type} [DecidableEq ι]

def place (shift : Shift ι σ S H) (name : ι) (post : Post) : Shift ι σ S H :=
  { shift with post := Function.update shift.post name post }

def opened [Backend S H] (latency : Bool) (phase : Phase) (threads total : Nat)
    (sources : Nat → σ) (world : World S) : Shift (Fin threads) σ S H where
  crew := .opened phase threads total sources world
  post _ := ⟨.spawned, [], .blank latency⟩

def Over (shift : Shift ι σ S H) : Prop := ∀ name, (shift.post name).stage = .gone

def report {threads : Nat} (shift : Shift (Fin threads) σ S H) (phase : Phase) (store : String)
    (benchmark : Benchmark) (requested duration : Nat) : Report :=
  .ofMeasurements phase store benchmark requested duration
    (List.ofFn fun name => (shift.post name).measurement)

variable [WordSource σ] [Backend S H]

inductive Move (shift : Shift ι σ S H) : Option (Event ι) → Shift ι σ S H → Prop where
  | open {name : ι} (spawned : (shift.post name).stage = .spawned) :
      Move shift none (shift.place name { (shift.post name).sees .start with stage := .waiting })
  | begin (waiting : ∀ name, (shift.post name).stage = .waiting) :
      Move shift none
        { shift with post := fun name => { shift.post name with stage := .working } }
  | work {event : Event ι} {next : Crew ι σ S H} (elapsed : Nat)
      (working : (shift.post event.worker).stage = .working) (step : Step shift.crew event next) :
      Move shift (some event)
        ⟨next, Function.update shift.post event.worker
          ((shift.post event.worker).after elapsed event)⟩
  | close {name : ι} (working : (shift.post name).stage = .working)
      (isDone : (shift.crew.worker name).isDone) :
      Move shift none (shift.place name { (shift.post name).sees .cleanup with stage := .gone })

inductive Course (first : Shift ι σ S H) : List (Event ι) → Shift ι σ S H → Prop where
  | start : Course first [] first
  | move {history : List (Event ι)} {event? : Option (Event ι)} {middle last : Shift ι σ S H}
      (earlier : Course first history middle) (next : Move middle event? last) :
      Course first (history ++ event?.toList) last

namespace Course

variable {first middle last : Shift ι σ S H} {history earlier later : List (Event ι)}

theorem append (course : Course first earlier middle) (rest : Course middle later last) :
    Course first (earlier ++ later) last := by
  induction rest with
  | start => rwa [List.append_nil]
  | move others next induction =>
      rw [← List.append_assoc]
      exact induction.move next

theorem interleaving (course : Course first history last) :
    Interleaving first.crew history last.crew := by
  induction course with
  | start => exact .start
  | move earlier next induction =>
      cases next with
      | work elapsed working step => exact induction.step step
      | «open» | «begin» | close =>
          rw [Option.toList_none, List.append_nil]
          exact induction

end Course
end Shift

/-! ## What is kept of the work -/

namespace Post

variable {ι : Type} {latency : Bool} {progress : Progress} {post : Post} {isDone : Bool}

/-- A post that goes with the progress of a worker. The handle has seen all calls that the worker
has made, and one more before and after them; what has been measured are the outcomes. -/
structure Tells (latency : Bool) (progress : Progress) (isDone : Bool) (post : Post) : Prop where
  idle : post.stage = .spawned → progress.answered = []
  finished : post.stage = .gone → isDone
  calls : post.calls = post.stage.opening ++ progress.answered ++ post.stage.closing
  counts : Measurement.Counts latency progress.outcomes post.measurement

theorem Tells.opened (tells : post.Tells latency progress isDone)
    (spawned : post.stage = .spawned) :
    Tells latency progress isDone { post.sees .start with stage := .waiting } where
  idle := nofun
  finished := nofun
  calls := by
    rw [sees, tells.calls, spawned, tells.idle spawned]
    rfl
  counts := tells.counts

theorem Tells.begun (tells : post.Tells latency progress isDone) (waiting : post.stage = .waiting) :
    Tells latency progress isDone { post with stage := .working } where
  idle := nofun
  finished := nofun
  calls := by
    rw [tells.calls, waiting]
    rfl
  counts := tells.counts

theorem Tells.closed (tells : post.Tells latency progress isDone) (working : post.stage = .working)
    (done : isDone) : Tells latency progress isDone { post.sees .cleanup with stage := .gone } where
  idle := nofun
  finished _ := done
  calls := by
    rw [sees, tells.calls, working]
    simp [Stage.opening, Stage.closing]
  counts := tells.counts

theorem Tells.after (tells : post.Tells latency progress isDone) (working : post.stage = .working)
    (elapsed : Nat) (event : Event ι) (isDone' : Bool) :
    (post.after elapsed event).Tells latency (progress.after event) isDone' := by
  refine ⟨by simp [working], by simp [working], ?_, ?_⟩
  · rw [calls_after, stage_after, tells.calls, working, Progress.answered_after]
    simp [Stage.closing]
  · cases event with
    | drew | asked => exact tells.counts
    | settled name phase transaction status =>
        exact tells.counts.record ⟨transaction.operation, status, progress.calls⟩ elapsed

end Post

namespace Shift

variable {ι σ S H : Type} [DecidableEq ι] {latency : Bool}

def Told (latency : Bool) (history : List (Event ι)) (shift : Shift ι σ S H) : Prop :=
  ∀ name, (shift.post name).Tells latency (progressOf name history) (shift.crew.worker name).isDone

variable [Backend S H]

theorem opened_told {phase : Phase} {threads total : Nat} {sources : Nat → σ} {world : World S} :
    Told latency []
      (opened latency phase threads total sources world : Shift (Fin threads) σ S H) :=
  fun _ => ⟨fun _ => rfl, nofun, rfl, Measurement.counts_blank latency⟩

variable [WordSource σ] {first shift next : Shift ι σ S H} {history : List (Event ι)}

theorem Move.told {event? : Option (Event ι)} (move : Move shift event? next)
    (told : shift.Told latency history) : next.Told latency (history ++ event?.toList) := by
  -- Only the worker that has moved, if any, has to be looked at.
  intro name
  cases move with
  | @«open» mover spawned =>
      rw [Option.toList_none, List.append_nil]
      by_cases same : name = mover
      · subst same
        simpa [place] using (told name).opened spawned
      · simpa [place, same] using told name
  | «begin» waiting =>
      rw [Option.toList_none, List.append_nil]
      exact (told name).begun (waiting name)
  | @work event crew elapsed working step =>
      rw [Option.toList_some, progressOf_concat]
      by_cases same : event.worker = name
      · subst same
        simpa using (told _).after working elapsed event _
      · simpa [same, Ne.symm same, step.worker_of_other same] using told name
  | @close mover working isDone =>
      rw [Option.toList_none, List.append_nil]
      by_cases same : name = mover
      · subst same
        simpa [place] using (told name).closed working isDone
      · simpa [place, same] using told name

theorem Course.told (course : Course first history shift) (begins : first.Told latency []) :
    shift.Told latency history := by
  induction course with
  | start => exact begins
  | move earlier next induction => exact next.told induction

theorem Course.finished {phase : Phase} {threads total : Nat} {sources : Nat → σ}
    {world : World S} {history : List (Event (Fin threads))} {shift : Shift (Fin threads) σ S H}
    (course : Course (opened latency phase threads total sources world) history shift)
    (ended : shift.Over) : shift.crew.Finished :=
  fun name => (course.told opened_told name).finished (ended name)

end Shift
end StoreBench
