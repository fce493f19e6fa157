import StoreBench.Proofs.Benchmark.InTurn
import StoreBench.Proofs.Interleaving.LoadCoverage

namespace StoreBench

/-! What the report of a phase says, against what the handles of its workers have seen. Each of
them sees one start, the calls of as many operations as its worker was given, and one cleanup. The
report counts these operations: each once, under its kind, and as successful if the answer to its
last call was. -/

def Outcome.succeeded (outcome : Outcome) : Bool :=
  match outcome.calls.getLast? with
  | some (.exchange _ answer) => answer.status.isOk
  | _ => false

theorem Outcome.CameOf.succeeded_eq {outcome : Outcome} {transaction : Transaction}
    (came : outcome.CameOf transaction) : outcome.succeeded = outcome.status.isOk := by
  rcases came.decided with ⟨answer, last, same⟩
  rw [Outcome.succeeded, last, same]

theorem exists_cameOf {outcomes : List Outcome} {transactions : List Transaction}
    (came : List.Forall₂ Outcome.CameOf outcomes transactions) {outcome : Outcome}
    (member : outcome ∈ outcomes) :
    ∃ transaction ∈ transactions, outcome.CameOf transaction := by
  induction came with
  | nil => cases member
  | cons first rest induction =>
      rcases List.mem_cons.mp member with rfl | member
      · exact ⟨_, List.mem_cons_self .., first⟩
      · rcases induction member with ⟨transaction, inside, own⟩
        exact ⟨transaction, List.mem_cons_of_mem _ inside, own⟩

/-- Calls that a handle sees in a phase, along with the operations that they are made for: a start,
the calls of a number of operations, each of them made of what belongs to its kind, and a
cleanup. -/
structure Handled (count : Nat) (transactions : List Transaction) (outcomes : List Outcome)
    (calls : List Call) : Prop where
  calls : calls = .start :: outcomes.flatMap Outcome.calls ++ [.cleanup]
  count : outcomes.length = count
  came : List.Forall₂ Outcome.CameOf outcomes transactions
  madeOf : ∀ transaction ∈ transactions, transaction.operation.MadeOf transaction.requests

structure Report.AccountsFor (report : Report) (benchmark : Benchmark) (phase : Phase)
    (total : Nat) (outcomes : List Outcome) : Prop where
  requested : report.requested = total
  even : report.executed = total / benchmark.threads * benchmark.threads
  dropped : report.executed ≤ total ∧ total - report.executed < benchmark.threads
  executed : ∀ operation, (report.tally operation).executed =
    outcomes.countP fun outcome => outcome.operation = operation
  ok : ∀ operation, (report.tally operation).ok =
    outcomes.countP fun outcome => outcome.operation = operation ∧ outcome.succeeded
  okAmongExecuted : ∀ operation, (report.tally operation).ok ≤ (report.tally operation).executed
  executedInAll : report.executed =
    (Operation.all.map fun operation => (report.tally operation).executed).sum
  okInAll : report.ok = (Operation.all.map fun operation => (report.tally operation).ok).sum
  loads : phase = .load → ∀ operation, operation ≠ .insert → report.tally operation = .zero
  latencies : report.latency?.map Histogram.size =
    if benchmark.latency then some report.executed else none

namespace Shift

variable {σ S H : Type} [WordSource σ] [Backend S H] {benchmark : Benchmark} {phase : Phase}
variable {total : Nat} {sources : Nat → σ} {world : World S}
variable {history : List (Event (Fin benchmark.threads))}
variable {shift : Shift (Fin benchmark.threads) σ S H}

namespace Course

variable (course : Course (opened benchmark.latency phase benchmark.threads total sources world)
  history shift)

include course

theorem handled (ended : shift.Over) (name : Fin benchmark.threads) :
    Handled (total / benchmark.threads) (drawnBy name history) (outcomesOf name history)
      (shift.post name).calls := by
  have run := course.interleaving
  have done := course.finished ended name
  rcases (run.progressed (fun _ => rfl) name).of_isDone done with ⟨count, idle, came⟩
  refine ⟨?_, ?_, came, ?_⟩
  · rw [(course.told opened_told name).calls, ended name, Progress.answered, idle, List.append_nil]
    rfl
  · rw [outcomesOf, count]
    exact List.length_replicate
  · intro transaction member
    rcases mem_drawnBy_iff.mp member with ⟨current, drew⟩
    rcases run.drawn_of_drew drew with ⟨before, after, drawn, _⟩
    exact drawn.madeOf

theorem counts_total :
    Measurement.Counts benchmark.latency
      (List.ofFn fun name => outcomesOf name history).flatten
      (.total benchmark.latency (List.ofFn fun name => (shift.post name).measurement)) := by
  apply Measurement.counts_total
  rw [List.ofFn_eq_map, List.ofFn_eq_map, List.forall₂_map_left_iff, List.forall₂_map_right_iff,
    List.forall₂_same]
  exact fun name _ => (course.told opened_told name).counts

/-- Every worker runs an equal number of operations, and what does not divide is dropped. -/
theorem length_flatten (ended : shift.Over) :
    (List.ofFn fun name => outcomesOf name history).flatten.length =
      total / benchmark.threads * benchmark.threads := by
  have counts : (fun name => (outcomesOf name history).length) =
      fun _ => total / benchmark.threads :=
    funext fun name => (course.handled ended name).count
  rw [List.length_flatten, List.map_ofFn, Function.comp_def, counts, List.ofFn_const,
    List.sum_replicate_nat, Nat.mul_comm]

theorem executed_eq (ended : shift.Over) (store : String) (duration : Nat) :
    (shift.report phase store benchmark total duration).executed =
      total / benchmark.threads * benchmark.threads :=
  course.counts_total.executed_eq.trans (course.length_flatten ended)

theorem drew_of_outcome (ended : shift.Over) {outcome : Outcome}
    (member : outcome ∈ (List.ofFn fun name => outcomesOf name history).flatten) :
    ∃ name transaction, .drew name phase transaction ∈ history ∧ outcome.CameOf transaction := by
  rcases List.mem_flatten.mp member with ⟨own, inside, member⟩
  rcases List.mem_ofFn.mp inside with ⟨name, rfl⟩
  rcases exists_cameOf (course.handled ended name).came member with ⟨transaction, drawn, came⟩
  rcases mem_drawnBy_iff.mp drawn with ⟨current, drew⟩
  cases (course.interleaving.within (Crew.opened_within _ _ _ _ _)).1 _ drew
  exact ⟨name, transaction, drew, came⟩

/-- The report of a phase that is over agrees with what the handles of its workers have seen. -/
theorem report_agrees_with_handles (ended : shift.Over) (store : String) (duration : Nat) :
    (∀ name, Handled (total / benchmark.threads) (drawnBy name history) (outcomesOf name history)
      (shift.post name).calls) ∧
    (shift.report phase store benchmark total duration).AccountsFor benchmark phase total
      (List.ofFn fun name => outcomesOf name history).flatten := by
  refine ⟨course.handled ended, ?_⟩
  have counts := course.counts_total
  have even := course.executed_eq ended store duration
  have remainder := Nat.mod_lt total benchmark.threads_pos
  have division := Nat.div_add_mod' total benchmark.threads
  have okAmongExecuted (operation : Operation) :
      ((shift.report phase store benchmark total duration).tally operation).ok ≤
        ((shift.report phase store benchmark total duration).tally operation).executed := by
    refine le_of_eq_of_le (counts.ok operation)
      (le_of_le_of_eq ?_ (counts.executed operation).symm)
    exact List.countP_mono_left fun outcome _ both =>
      decide_eq_true (of_decide_eq_true both).1
  refine ⟨rfl, even, ?_, counts.executed, fun operation => ?_, okAmongExecuted,
    Tallies.executed_eq_sum _, Tallies.ok_eq_sum _, ?_, ?_⟩
  · omega
  · refine (counts.ok operation).trans (List.countP_congr fun outcome member => ?_)
    rcases course.drew_of_outcome ended member with ⟨name, transaction, _, came⟩
    rw [came.succeeded_eq]
  · rintro rfl operation other
    have none : ((shift.report .load store benchmark total duration).tally operation).executed =
        0 := by
      refine (counts.executed operation).trans (List.countP_eq_zero.mpr fun outcome member => ?_)
      rcases course.drew_of_outcome ended member with ⟨name, transaction, drew, came⟩
      rcases course.interleaving.drawn_of_drew drew with ⟨before, after, drawn, _⟩
      cases drawn
      simpa [came.operation] using other.symm
    -- What was not executed has not succeeded either.
    have noneOk := okAmongExecuted operation
    rw [none] at noneOk
    exact congrArg₂ Tally.mk none (Nat.le_zero.mp noneOk)
  · refine counts.latency.trans ?_
    rw [← counts.executed_eq]
    rfl

end Course
end Shift

def Run.ofTwoTimed : Run Store :=
  { Run.ofTwoWorkers with benchmark := { Run.ofTwoWorkers.benchmark with latency := true } }

theorem Shift.Course.report_agrees_with_handles_twoTimed :
    ∃ result last history,
      ∃ shift : Shift (Fin Run.ofTwoTimed.benchmark.threads) Xoshiro Store Unit,
      Run.ofTwoTimed.runPhase .still 0 .load 3 = .ok (result, last) ∧
      Course (Run.ofTwoTimed.shift 0 .load 3) history shift ∧ shift.Over ∧
      (∀ name, Handled (3 / 2) (drawnBy name history) (outcomesOf name history)
        (shift.post name).calls) ∧
      result.report.AccountsFor Run.ofTwoTimed.benchmark .load 3
        (List.ofFn fun name => outcomesOf name history).flatten ∧
      result.report.executed = 2 ∧ result.report.latency?.map Histogram.size = some 2 := by
  have completes : (Run.ofTwoTimed.runPhase .still 0 .load 3).toOption.isSome := by
    decide +kernel
  rcases Option.isSome_iff_exists.mp completes with ⟨⟨result, last⟩, done⟩
  have ran := toOption_eq_some_iff.mp done
  rcases Run.course_of_runPhase ran with ⟨history, shift, course, ended, _, _, same⟩
  rcases course.report_agrees_with_handles ended "btreemap" (Clock.still.duration 2) with
    ⟨handled, accounts⟩
  have told : result.report.AccountsFor Run.ofTwoTimed.benchmark .load 3
      (List.ofFn fun name => outcomesOf name history).flatten := by
    rw [same]
    exact accounts
  refine ⟨result, last, history, shift, ran, course, ended, handled, told, told.even, ?_⟩
  rw [told.latencies, told.even]
  rfl

end StoreBench
