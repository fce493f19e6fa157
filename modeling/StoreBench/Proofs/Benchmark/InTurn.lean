import Mathlib.Data.List.FinRange
import StoreBench.Proofs.Benchmark.Shifts

namespace StoreBench

/-! Shifts in turn. A phase that is run here has its workers work one after the other, each with a
clock of its own. This is one of the courses that the phase may take: the handles of its workers
see the same calls, and its report is made of the same measurements. -/

namespace Post

variable {ι : Type} {name : ι} {phase : Phase} {transaction : Transaction} {outcome : Outcome}

def worked (post : Post) (outcome : Outcome) (elapsed : Nat) : Post :=
  { post with
    calls := post.calls ++ outcome.calls
    measurement := post.measurement.record outcome.operation outcome.status.isOk elapsed }

def workedAll (post : Post) (outcomes : List (Outcome × Nat)) : Post :=
  outcomes.foldl (fun post (outcome, elapsed) => post.worked outcome elapsed) post

@[simp] theorem stage_foldl_after (post : Post) (elapsed : Nat) (history : List (Event ι)) :
    (history.foldl (after elapsed) post).stage = post.stage := by
  induction history generalizing post with
  | nil => rfl
  | cons event rest induction => rw [List.foldl_cons, induction, stage_after]

theorem foldl_after_calls (post : Post) (elapsed : Nat) (calls : List Call) :
    (calls.filterMap (Call.event? name phase transaction)).foldl (after elapsed) post =
      { post with calls :=
          post.calls ++ callsSeen (calls.filterMap (Call.event? name phase transaction)) } := by
  induction calls generalizing post with
  | nil => simp [callsSeen]
  | cons call rest induction =>
      cases call with
      | start | cleanup => exact induction post
      | exchange request answer =>
          simp only [List.filterMap_cons, Call.event?, List.foldl_cons, induction]
          simp [after, sees, callsSeen, Event.call?]

theorem foldl_after_history (post : Post) (elapsed : Nat)
    (same : transaction.operation = outcome.operation)
    (seen : callsSeen (outcome.history name phase transaction) = outcome.calls) :
    (outcome.history name phase transaction).foldl (after elapsed) post =
      post.worked outcome elapsed := by
  rw [Outcome.callsSeen_history] at seen
  rw [Outcome.history, List.cons_append, List.foldl_cons, List.foldl_append, foldl_after_calls,
    seen]
  simp [after, worked, same]

theorem workedAll_eq (post : Post) (outcomes : List (Outcome × Nat)) :
    post.workedAll outcomes =
      { post with
        calls := post.calls ++ (outcomes.map Prod.fst).flatMap Outcome.calls
        measurement := outcomes.foldl (fun measurement (outcome, elapsed) =>
          measurement.record outcome.operation outcome.status.isOk elapsed) post.measurement } := by
  induction outcomes generalizing post with
  | nil => simp [workedAll]
  | cons first rest induction =>
      rw [workedAll, List.foldl_cons]
      refine (induction (post.worked first.1 first.2)).trans ?_
      simp [worked]

def left (latency : Bool) (outcomes : List Outcome) (times : List Nat) : Post :=
  ⟨.gone, Phase.calls outcomes, .ofOutcomes latency (outcomes.zip times)⟩

theorem left_eq {latency : Bool} {outcomes : List Outcome} {times : List Nat}
    (length : times.length = outcomes.length) :
    { (workedAll ⟨.working, [.start], .blank latency⟩ (outcomes.zip times)).sees .cleanup with
      stage := .gone } = left latency outcomes times := by
  rw [workedAll_eq, List.map_fst_zip (Nat.le_of_eq length.symm)]
  rfl

end Post

namespace Shift

variable {ι σ S H : Type} [DecidableEq ι] [Backend S H]

def atWork (latency : Bool) (phase : Phase) (threads total : Nat) (sources : Nat → σ)
    (world : World S) : Shift (Fin threads) σ S H where
  crew := .opened phase threads total sources world
  post _ := ⟨.working, [.start], .blank latency⟩

def opening (latency : Bool) (phase : Phase) (threads total : Nat) (sources : Nat → σ)
    (world : World S) (names : List (Fin threads)) : Shift (Fin threads) σ S H where
  crew := .opened phase threads total sources world
  post name :=
    if name ∈ names then ⟨.waiting, [.start], .blank latency⟩
    else ⟨.spawned, [], .blank latency⟩

variable (latency : Bool) (phase : Phase) (threads total : Nat) (sources : Nat → σ)
variable (world : World S)

theorem place_opening (name : Fin threads) (names : List (Fin threads)) :
    (opening latency phase threads total sources world names : Shift (Fin threads) σ S H).place
      name ⟨.waiting, [.start], .blank latency⟩ =
        opening latency phase threads total sources world (name :: names) := by
  refine congrArg (Shift.mk _) (funext fun other => ?_)
  by_cases same : other = name
  · subst same
    simp
  · simp [opening, same]

variable [WordSource σ]

theorem course_opening {names : List (Fin threads)} (distinct : names.Nodup) :
    Course (opened latency phase threads total sources world : Shift (Fin threads) σ S H) []
      (opening latency phase threads total sources world names) := by
  induction names with
  | nil => exact .start
  | cons name rest induction =>
      rcases List.nodup_cons.mp distinct with ⟨absent, distinctRest⟩
      have spawned : (opening latency phase threads total sources world rest :
          Shift (Fin threads) σ S H).post name = ⟨.spawned, [], .blank latency⟩ := if_neg absent
      have next := (induction distinctRest).move (.open (congrArg Post.stage spawned))
      rw [spawned, Option.toList_none, List.append_nil] at next
      rw [← place_opening]
      exact next

theorem course_atWork :
    Course (opened latency phase threads total sources world : Shift (Fin threads) σ S H) []
      (atWork latency phase threads total sources world) := by
  have waiting := course_opening (H := H) latency phase threads total sources world
    (List.nodup_finRange threads)
  have begun := waiting.move (.begin fun name => congrArg Post.stage (if_pos (by simp)))
  simpa [opening, atWork] using begun

namespace Course

variable {shift : Shift ι σ S H} {name : ι}

theorem of_interleaving {crew : Crew ι σ S H} {history : List (Event ι)}
    (run : Interleaving shift.crew history crew) (alone : ∀ event ∈ history, event.worker = name)
    (working : (shift.post name).stage = .working) (elapsed : Nat) :
    Course shift history ⟨crew, Function.update shift.post name
      (history.foldl (Post.after elapsed) (shift.post name))⟩ := by
  induction run with
  | start =>
      rw [List.foldl_nil, Function.update_eq_self]
      exact .start
  | @step history event middle last earlier next induction =>
      have course := induction fun event member => alone event (List.mem_append_left _ member)
      have own : event.worker = name := alone event (by simp)
      subst own
      rw [List.foldl_append, List.foldl_cons, List.foldl_nil]
      have moved := course.move (.work elapsed (by simpa using working) next)
      simpa [Function.update_idem] using moved

end Course
end Shift

/-! ## Phases -/

theorem Phase.sessions_eq {σ S H : Type} [Backend S H] (threads : Nat) (sources : Nat → σ)
    (world : World S) :
    sessions threads sources world =
      (List.finRange threads).map
        (fun name => Session.start (sources name) world : Fin threads → Session σ H) := by
  rw [sessions, ← List.map_coe_finRange_eq_range, List.map_map]
  rfl

section Workers

variable {ι σ S H : Type} [DecidableEq ι] [WordSource σ] [Backend S H]
variable {phase : Phase} {count : Nat} {world : World S}

theorem Phase.work_course (shift : Shift ι σ S H) {name : ι} {session : Session σ H}
    {outcomes : List Outcome} {times : List Nat} (working : (shift.post name).stage = .working)
    (ready : shift.crew.worker name = ⟨session, List.replicate count phase, .ready⟩)
    (worked : phase.work count session shift.crew.world = .ok (outcomes, world))
    (length : times.length = outcomes.length) :
    ∃ history after, Shift.Course shift history
      ⟨shift.crew.move name ⟨after, [], .ready⟩ world, Function.update shift.post name
        ((shift.post name).workedAll (outcomes.zip times))⟩ := by
  induction count generalizing shift session outcomes times with
  | zero =>
      cases worked
      have idle : shift.crew.worker name = ⟨session, [], .ready⟩ := ready
      refine ⟨[], session, ?_⟩
      rw [Crew.move_same idle, List.zip_nil_left, Post.workedAll, List.foldl_nil,
        Function.update_eq_self]
      exact .start
  | succ count induction =>
      rw [work_succ] at worked
      rcases bind_eq_ok_iff.mp worked with ⟨⟨outcome, next, middle⟩, performed, worked⟩
      rcases bind_eq_ok_iff.mp worked with ⟨⟨others, last⟩, rest, worked⟩
      cases worked
      rcases times with _ | ⟨elapsed, later⟩
      · cases length
      rcases Session.perform_interleaving ready performed with ⟨transaction, same, seen, run⟩
      have course := Shift.Course.of_interleaving run
        (fun event member => Outcome.worker_of_history member) working elapsed
      rw [Post.foldl_after_history _ _ same seen] at course
      rcases induction ⟨shift.crew.move name ⟨next, List.replicate count phase, .ready⟩ middle,
          Function.update shift.post name ((shift.post name).worked outcome elapsed)⟩
        (by simpa [Post.worked] using working) (Crew.move_worker_same _ name _ _) rest
        (Nat.succ.inj length) with ⟨history, after, courseLater⟩
      simp only [Crew.move_move, Function.update_idem, Function.update_self] at courseLater
      exact ⟨_, after, course.append courseLater⟩

theorem Phase.leave_course (shift : Shift ι σ S H) {name : ι} {latency : Bool}
    {session : Session σ H} {outcomes : List Outcome} {times : List Nat}
    (posted : shift.post name = ⟨.working, [.start], .blank latency⟩)
    (ready : shift.crew.worker name = ⟨session, List.replicate count phase, .ready⟩)
    (worked : phase.work count session shift.crew.world = .ok (outcomes, world))
    (length : times.length = outcomes.length) :
    ∃ history after, Shift.Course shift history
      ⟨shift.crew.move name ⟨after, [], .ready⟩ world,
        Function.update shift.post name (.left latency outcomes times)⟩ := by
  rcases Phase.work_course shift (by rw [posted]) ready worked length with
    ⟨history, after, course⟩
  rw [posted] at course
  have working : (Function.update shift.post name (Post.workedAll
      ⟨.working, [.start], .blank latency⟩ (outcomes.zip times)) name).stage = .working := by
    rw [Function.update_self, Post.workedAll_eq]
  have closed := course.move (.close working (congrArg Worker.isDone (Crew.move_worker_same ..)))
  simp only [Shift.place, Function.update_self, Function.update_idem, Post.left_eq length,
    Option.toList_none, List.append_nil] at closed
  exact ⟨history, after, closed⟩

theorem Phase.workAll_course (shift : Shift ι σ S H) {names : List ι} (distinct : names.Nodup)
    {latency : Bool} {session : ι → Session σ H} {work : List (List Outcome)}
    {times : List Outcome → List Nat}
    (length : ∀ outcomes, (times outcomes).length = outcomes.length)
    (ready : ∀ name ∈ names,
      shift.crew.worker name = ⟨session name, List.replicate count phase, .ready⟩)
    (posted : ∀ name ∈ names, shift.post name = ⟨.working, [.start], .blank latency⟩)
    (worked : phase.workAll count (names.map session) shift.crew.world = .ok (work, world)) :
    ∃ history last, Shift.Course shift history last ∧ last.crew.world = world ∧
      names.map last.post = work.map (fun outcomes => .left latency outcomes (times outcomes)) ∧
      ∀ name, name ∉ names → last.post name = shift.post name := by
  induction names generalizing shift work with
  | nil =>
      cases worked
      exact ⟨[], shift, .start, rfl, rfl, fun _ _ => rfl⟩
  | cons name rest induction =>
      rcases bind_eq_ok_iff.mp worked with ⟨⟨own, middle⟩, first, worked⟩
      rcases bind_eq_ok_iff.mp worked with ⟨⟨others, last⟩, later, worked⟩
      cases worked
      rcases List.nodup_cons.mp distinct with ⟨absent, distinctRest⟩
      rcases Phase.leave_course shift (posted name (List.mem_cons_self ..))
        (ready name (List.mem_cons_self ..)) first (length own) with ⟨earlier, after, closed⟩
      -- The first worker has moved alone, so the others still have all their work ahead.
      have kept {other : ι} (different : other ≠ name) :
          (shift.crew.move name ⟨after, [], .ready⟩ middle).worker other =
            shift.crew.worker other ∧
          Function.update shift.post name (.left latency own (times own)) other =
            shift.post other :=
        ⟨Crew.move_worker_other _ _ _ different, Function.update_of_ne different _ _⟩
      have different {other : ι} (member : other ∈ rest) : other ≠ name :=
        fun same => absent (same ▸ member)
      rcases induction ⟨shift.crew.move name ⟨after, [], .ready⟩ middle,
          Function.update shift.post name (.left latency own (times own))⟩ distinctRest
        (fun other member =>
          (kept (different member)).1.trans (ready other (List.mem_cons_of_mem _ member)))
        (fun other member =>
          (kept (different member)).2.trans (posted other (List.mem_cons_of_mem _ member)))
        later with ⟨history, final, courseRest, world, postsRest, same⟩
      refine ⟨_, final, closed.append courseRest, world, ?_, ?_⟩
      · rw [List.map_cons, List.map_cons, postsRest, same name absent]
        exact congrArg (· :: _) (Function.update_self ..)
      · intro other outside
        rcases not_or.mp (mt List.mem_cons.mpr outside) with ⟨different, outsideRest⟩
        exact (same other outsideRest).trans (kept different).2

end Workers

/-! ## Runs -/

namespace Run

variable {S H : Type} [Backend S H]
variable {clock : Clock} {entropy : UInt64} {phase : Phase} {total : Nat} {run last : Run S}

def shift (run : Run S) (entropy : UInt64) (phase : Phase) (total : Nat) :
    Shift (Fin run.benchmark.threads) Xoshiro S H :=
  .opened run.benchmark.latency phase run.benchmark.threads total
    (sources run.benchmark entropy phase) run.world

/-- A phase that comes to its end has taken one of its courses. The handles have seen the calls
that are told of it, and what the workers have measured makes up its report. -/
theorem course_of_runPhase {result : PhaseResult}
    (ran : run.runPhase clock entropy phase total = .ok (result, last)) :
    ∃ history shift,
      Shift.Course (run.shift entropy phase total) history shift ∧ shift.Over ∧
      last = { run with world := shift.crew.world } ∧
      result.calls = List.ofFn (fun name => (shift.post name).calls) ∧
      result.report = shift.report phase run.storeName run.benchmark total
        (clock.duration run.benchmark.threads) := by
  rcases bind_eq_ok_iff.mp ran with ⟨⟨work, world⟩, worked, ran⟩
  cases ran
  rcases bind_eq_ok_iff.mp worked with ⟨_, _, worked⟩
  rw [Phase.sessions_eq] at worked
  have lengths : ∀ outcomes, (clock.latencies outcomes).length = outcomes.length :=
    clock.length_latenciesFrom 0 0
  rcases Phase.workAll_course (.atWork run.benchmark.latency phase run.benchmark.threads total
    (sources run.benchmark entropy phase) run.world) (List.nodup_finRange _) lengths
    (fun _ _ => rfl) (fun _ _ => rfl) worked with ⟨history, shift, course, same, posts, _⟩
  rw [← List.ofFn_eq_map] at posts
  refine ⟨history, shift, (Shift.course_atWork ..).append course, ?_, ?_, ?_, ?_⟩
  · intro name
    have member : shift.post name ∈ List.ofFn shift.post := List.mem_ofFn.mpr ⟨name, rfl⟩
    rw [posts] at member
    rcases List.mem_map.mp member with ⟨outcomes, _, left⟩
    rw [← left]
    rfl
  · rw [same]
  · have seen := congrArg (List.map Post.calls) posts
    simpa [List.map_ofFn, Function.comp_def, Post.left] using seen.symm
  · have measured := congrArg (List.map Post.measurement) posts
    rw [List.map_ofFn, List.map_map] at measured
    exact congrArg (Report.ofMeasurements _ _ _ _ _) measured.symm

theorem runPhase_interleaving {result : PhaseResult}
    (ran : run.runPhase clock entropy phase total = .ok (result, last)) :
    ∃ history done,
      Interleaving
        (Crew.opened phase run.benchmark.threads total (sources run.benchmark entropy phase)
          run.world) history done ∧
      done.Finished ∧ last = { run with world := done.world } := by
  rcases course_of_runPhase ran with ⟨history, shift, course, ended, same, _⟩
  exact ⟨history, shift.crew, course.interleaving, course.finished ended, same⟩

theorem ending_attempt_cons {rest : List (Phase × Nat)}
    (ended : (run.attempt clock entropy ((phase, total) :: rest)).ending = .ok last) :
    ∃ result middle later, run.runPhase clock entropy phase total = .ok (result, middle) ∧
      (middle.attempt later entropy rest).ending = .ok last := by
  cases ran : run.runPhase clock entropy phase total with
  | error crash =>
      rw [attempt, ran] at ended
      cases ended
  | ok done =>
      rw [attempt, ran] at ended
      exact ⟨done.1, done.2, _, rfl, ended⟩

theorem underway_of_attempt {earlier : List (Phase × Nat)}
    (ended : (run.attempt clock entropy (earlier ++ [(phase, total)])).ending = .ok last) :
    ∃ history done,
      Underway run.benchmark.threads (sources run.benchmark entropy) run.world
        (earlier ++ [(phase, total)]) phase history done ∧
      done.Finished ∧ last = { run with world := done.world } := by
  induction earlier generalizing clock run with
  | nil =>
      rcases ending_attempt_cons ended with ⟨result, middle, later, ran, ended⟩
      cases ended
      rcases runPhase_interleaving ran with ⟨history, done, interleaving, finished, same⟩
      exact ⟨history, done, .current interleaving, finished, same⟩
  | cons first rest induction =>
      rcases ending_attempt_cons ended with ⟨result, middle, later, ran, ended⟩
      rcases runPhase_interleaving ran with ⟨past, between, interleaving, passed, rfl⟩
      rcases induction ended with ⟨history, done, underway, finished, same⟩
      exact ⟨history, done, .later interleaving passed underway, finished, same⟩

theorem underway_of_bench {results : List PhaseResult}
    (ran : run.bench clock entropy = .ok (results, last)) :
    ∃ history done,
      Underway run.benchmark.threads (sources run.benchmark entropy) run.world run.schedule
        .transactions history done ∧
      done.Finished ∧ last = { run with world := done.world } := by
  rcases ending : (run.attempt clock entropy run.schedule).ending with crash | ended
  · rw [bench, runPhases, ending] at ran
    cases ran
  · rw [bench, runPhases, ending] at ran
    cases ran
    exact underway_of_attempt ending

end Run

end StoreBench
