import StoreBench.Proofs.Drawing.InUse
import StoreBench.Proofs.Interleaving.CaughtUp
import StoreBench.Store.Scripted

namespace StoreBench

/-! Runs that do not depend on the schedule. Workers meet in the workload, and what one of them
does there may show in what another one draws only where the frontier counts. It does not count
with even draws, which stay below it, and it does not move without inserts. Then each worker
draws what it would draw alone, but for the numbers of its inserts, and whatever the order of
the workers and the answers of the store are, the same numbers are handed out. -/

/-! ## What a worker does -/

section Histories

variable {ι : Type} [DecidableEq ι]

namespace Event

def drawnBy (name : ι) : Event ι → List Transaction
  | .drew worker _ transaction => if worker = name then [transaction] else []
  | _ => []

def askedBy (name : ι) : Event ι → List Request
  | .asked worker _ _ request _ => if worker = name then [request] else []
  | _ => []

theorem drawnBy_of_other {event : Event ι} {name : ι} (different : event.worker ≠ name) :
    event.drawnBy name = [] := by
  cases event with
  | drew => exact if_neg different
  | asked | settled => rfl

theorem askedBy_of_other {event : Event ι} {name : ι} (different : event.worker ≠ name) :
    event.askedBy name = [] := by
  cases event with
  | asked => exact if_neg different
  | drew | settled => rfl

end Event

def drawnBy (name : ι) (history : List (Event ι)) : List Transaction :=
  history.flatMap (Event.drawnBy name)

def askedBy (name : ι) (history : List (Event ι)) : List Request :=
  history.flatMap (Event.askedBy name)

theorem drawnBy_concat (name : ι) (history : List (Event ι)) (event : Event ι) :
    drawnBy name (history ++ [event]) = drawnBy name history ++ event.drawnBy name := by
  simp [drawnBy]

theorem askedBy_concat (name : ι) (history : List (Event ι)) (event : Event ι) :
    askedBy name (history ++ [event]) = askedBy name history ++ event.askedBy name := by
  simp [askedBy]

theorem mem_drawnBy_iff {name : ι} {history : List (Event ι)} {transaction : Transaction} :
    transaction ∈ drawnBy name history ↔ ∃ phase, .drew name phase transaction ∈ history := by
  rw [drawnBy, List.mem_flatMap]
  constructor
  · rintro ⟨event, member, drawn⟩
    cases event with
    | asked | settled => cases drawn
    | drew worker phase made =>
        by_cases same : worker = name
        · subst same
          simp only [Event.drawnBy, if_true, List.mem_singleton] at drawn
          subst drawn
          exact ⟨phase, member⟩
        · simp [Event.drawnBy, same] at drawn
  · rintro ⟨phase, drew⟩
    exact ⟨_, drew, by simp [Event.drawnBy]⟩

theorem inserts_eq_sum [Fintype ι] (history : List (Event ι)) :
    inserts history = ∑ name, (drawnBy name history).countP (·.operation = .insert) := by
  induction history using List.reverseRecOn with
  | nil => simp [inserts, drawnBy]
  | append_singleton history event induction =>
      simp only [inserts_concat, drawnBy_concat, List.countP_append, Finset.sum_add_distrib,
        induction, Nat.add_left_cancel_iff]
      cases event with
      | asked | settled => simp [Event.isInsert, Event.drawnBy]
      | drew worker phase transaction =>
          simp only [Event.isInsert, Event.drawnBy, apply_ite (List.countP _),
            List.countP_singleton, List.countP_nil]
          simp

end Histories

def Activity.outstanding : Activity → List Request
  | .asking _ transaction earlier => earlier ++ [transaction.deciding]
  | _ => []

/-! ## Workers alone -/

section Alone

variable {σ : Type} [WordSource σ]

def Workload.drawAlone (workload : Workload) (phase : Phase) (source : σ) :
    Nat → Except Crash (List Transaction × σ)
  | 0 => .ok ([], source)
  | count + 1 => do
      let (made, source) ← workload.drawAlone phase source count
      let (transaction, _, source) ← phase.drawing.run (workload, source)
      return (made ++ [transaction], source)

/-- A worker has come as far as it would have come alone, but for the numbers of inserts. -/
structure Worker.Alone {H : Type} (workload : Workload) (phase : Phase) (source : σ) (total : Nat)
    (made : List Transaction) (asked : List Request) (worker : Worker σ H) : Prop where
  remaining : made.length + worker.ahead.length = total
  drawn : ∃ alone,
    workload.drawAlone phase source made.length = .ok (alone, worker.session.source) ∧
      made.map Transaction.unkeyed = alone.map Transaction.unkeyed
  asked : asked ++ worker.activity.outstanding = made.flatMap Transaction.requests

theorem Workload.drawAlone_succ {workload after : Workload} {phase : Phase}
    {source rest words : σ} {count : Nat} {made : List Transaction} {transaction : Transaction}
    (earlier : workload.drawAlone phase source count = .ok (made, rest))
    (drawn : phase.drawing.run (workload, rest) = .ok (transaction, after, words)) :
    workload.drawAlone phase source (count + 1) = .ok (made ++ [transaction], words) := by
  simp [drawAlone, earlier, drawn, bind, Except.bind, pure, Except.pure]

variable {ι S H : Type} [DecidableEq ι] [Backend S H]
variable {crew next first last : Crew ι σ S H} {history : List (Event ι)} {event : Event ι}
variable {workload : Workload} {phase : Phase} {source : σ} {total : Nat} {name : ι}

theorem Worker.Alone.draw {before after : Workload} {session : Session σ H} {rest : σ}
    {ahead : List Phase} {made : List Transaction} {asked : List Request}
    {transaction : Transaction}
    (alone : Worker.Alone workload phase source total made asked ⟨session, phase :: ahead, .ready⟩)
    (alike : before.Alike workload)
    (drawn : phase.drawing.run (before, session.source) = .ok (transaction, after, rest)) :
    Worker.Alone workload phase source total (made ++ [transaction]) asked
      ⟨{ session with source := rest }, ahead,
        .asking phase transaction transaction.earlier⟩ := by
  have remaining := alone.remaining
  have answered := alone.asked
  -- Alone, the worker has the same words left, and draws a similar transaction from them.
  rcases alone.drawn with ⟨others, earlier, similar⟩
  rcases Workload.agree_drawing phase alike drawn with ⟨other, _, otherDrawn, unkeyed, _⟩
  refine ⟨?_, ⟨others ++ [other], ?_, ?_⟩, ?_⟩
  · simp only [List.length_append, List.length_cons, List.length_nil] at remaining ⊢
    omega
  · rw [List.length_append]
    exact Workload.drawAlone_succ earlier otherDrawn
  · rw [List.map_append, List.map_append, similar, List.map_singleton, List.map_singleton,
      unkeyed]
  · simp only [Activity.outstanding, List.append_nil] at answered ⊢
    simp [answered, Transaction.requests]

theorem Step.alone (step : Step crew event next) (here : event.phase = phase)
    (alike : crew.world.workload.Alike workload)
    (alone : (crew.worker name).Alone workload phase source total (drawnBy name history)
      (askedBy name history)) :
    (next.worker name).Alone workload phase source total (drawnBy name (history ++ [event]))
      (askedBy name (history ++ [event])) := by
  rw [drawnBy_concat, askedBy_concat]
  by_cases same : event.worker = name
  · subst same
    cases step with
    | draw ready drawn =>
        cases here
        rcases Session.draw_eq_ok_iff.mp drawn with ⟨later, words, made, rfl, rfl⟩
        simp only [Event.worker, Event.drawnBy, Event.askedBy, ready, Crew.move_worker_same,
          if_true, List.append_nil] at alone ⊢
        exact alone.draw alike made
    | askEarlier asking answered | askDeciding asking answered =>
        cases answered
        simp only [Event.worker, Event.drawnBy, Event.askedBy, asking, Crew.move_worker_same,
          if_true, List.append_nil] at alone ⊢
        refine ⟨alone.remaining, alone.drawn, ?_⟩
        simpa [Activity.outstanding] using alone.asked
    | settle answered settled =>
        simp only [Event.worker, Event.drawnBy, Event.askedBy, answered, Crew.move_worker_same,
          List.append_nil] at alone ⊢
        exact ⟨alone.remaining, alone.drawn, alone.asked⟩
  · rw [Event.drawnBy_of_other same, Event.askedBy_of_other same, step.worker_of_other same,
      List.append_nil, List.append_nil]
    exact alone

end Alone

/-! ## Workloads of a run -/

section Reached

variable {ι σ S H : Type} [DecidableEq ι] [WordSource σ] [Backend S H]
variable {crew next first last : Crew ι σ S H} {history : List (Event ι)} {event : Event ι}
variable {origin : Workload}

theorem Step.reached (step : Step crew event next)
    (reached : Workload.Reached origin crew.world.workload) :
    Workload.Reached origin next.world.workload := by
  cases step with
  | draw ready drawn =>
      rcases Session.draw_eq_ok_iff.mp drawn with ⟨workload, words, made, rfl, rfl⟩
      exact Workload.leads_drawing _ reached made
  | askEarlier asking answered | askDeciding asking answered =>
      rwa [Crew.move_world, Session.ask_workload answered]
  | settle answered settled => exact reached.settle settled

namespace Interleaving

theorem reached (run : Interleaving first history last)
    (begins : Workload.Reached origin first.world.workload) :
    Workload.Reached origin last.world.workload := by
  induction run with
  | start => exact begins
  | step earlier next induction => exact next.reached induction

theorem run_of_drew (run : Interleaving first history last)
    (begins : Workload.Reached origin first.world.workload) {name : ι} {phase : Phase}
    {transaction : Transaction} (drew : .drew name phase transaction ∈ history) :
    ∃ before after, ∃ source rest : σ, Workload.Reached origin before ∧
      phase.drawing.run (before, source) = .ok (transaction, after, rest) := by
  rcases List.append_of_mem drew with ⟨past, later, rfl⟩
  rcases run.at_event with ⟨before, after, earlier, step⟩
  cases step with
  | draw ready drawn =>
      rcases Session.draw_eq_ok_iff.mp drawn with ⟨workload, words, made, rfl, rfl⟩
      exact ⟨_, _, _, _, earlier.reached begins, made⟩

theorem number?_of_drew (run : Interleaving first history last)
    (begins : Workload.Reached origin first.world.workload)
    (noInsert : .insert ∉ origin.operations.entries.map Prod.fst) {name : ι} {phase : Phase}
    {transaction : Transaction} (drew : .drew name phase transaction ∈ history) :
    transaction.number? = none := by
  rcases run.run_of_drew begins drew with ⟨before, after, source, rest, reached, made⟩
  have drawn := Workload.drawing_drawn made
  cases phase with
  | load =>
      cases drawn
      rfl
  | transactions =>
      have chosen := Workload.operation_of_nextTransaction made
      rw [Workload.entries_eq_of_idle reached.idle_eq] at chosen
      rw [drawn.number?_eq, if_neg]
      rintro isInsert
      exact noInsert (isInsert ▸ chosen)

theorem acknowledged_of_noInsert (run : Interleaving first history last)
    (begins : Workload.Reached origin first.world.workload)
    (ready : ∀ name, (first.worker name).activity = .ready)
    (noInsert : .insert ∉ origin.operations.entries.map Prod.fst) (member : event ∈ history) :
    event.acknowledged = [] := by
  cases event with
  | drew | asked => rfl
  | settled name phase transaction status =>
      have drew := (run.answered_of_settled ready member).1
      simp [Event.acknowledged, Transaction.acknowledged, run.number?_of_drew begins noInsert drew]

theorem alike {properties : Properties} (configured : Workload.Configured properties origin)
    (unswayed : origin.requestDistribution = .uniform ∨
      .insert ∉ origin.operations.entries.map Prod.fst)
    (begins : Workload.Reached origin first.world.workload)
    (ready : ∀ name, (first.worker name).activity = .ready)
    (run : Interleaving first history last) :
    last.world.workload.Alike first.world.workload := by
  have reached := run.reached begins
  refine ⟨reached.idle_eq.trans begins.idle_eq.symm, reached.exact configured.exact,
    begins.exact configured.exact, ?_⟩
  rcases unswayed with uniform | noInsert
  · have clear := configured.clear uniform
    have positive := configured.recordCount_positive
    exact .inr ⟨reached.clear configured.frontier positive clear,
      begins.clear configured.frontier positive clear⟩
  · have unmoved := run.frontier_eq fun event member =>
      run.acknowledged_of_noInsert begins ready noInsert member
    exact .inl (congrArg Frontier.last unmoved)

theorem alone {properties : Properties} {phase : Phase}
    (configured : Workload.Configured properties origin)
    (unswayed : origin.requestDistribution = .uniform ∨
      .insert ∉ origin.operations.entries.map Prod.fst)
    (begins : Workload.Reached origin first.world.workload)
    (ready : ∀ name, (first.worker name).activity = .ready)
    (within : ∀ name, (first.worker name).Within phase)
    (run : Interleaving first history last) (name : ι) :
    (last.worker name).Alone first.world.workload phase (first.worker name).session.source
      (first.worker name).ahead.length (drawnBy name history) (askedBy name history) := by
  induction run with
  | start =>
      refine ⟨Nat.zero_add _, ⟨[], rfl, rfl⟩, ?_⟩
      rw [ready name]
      rfl
  | step earlier next induction =>
      have here := (next.within (earlier.within within).2).1
      exact next.alone here (earlier.alike configured unswayed begins ready) induction

end Interleaving
end Reached

/-! ## Complete runs -/

theorem Transaction.requests_unkeyed (transaction : Transaction) :
    transaction.unkeyed.requests = transaction.requests.map Request.unkeyed := by
  simp [requests, unkeyed]

theorem map_unkeyed_requests (made : List Transaction) :
    (made.flatMap Transaction.requests).map Request.unkeyed =
      (made.map Transaction.unkeyed).flatMap Transaction.requests := by
  simp [List.map_flatMap, List.flatMap_map, Transaction.requests_unkeyed]

section Finished

variable {σ H H' : Type} [WordSource σ] {workload : Workload} {phase : Phase} {source : σ}
variable {total : Nat} {made otherMade : List Transaction} {asked otherAsked : List Request}
variable {worker : Worker σ H} {other : Worker σ H'}

theorem Worker.Alone.finished (alone : worker.Alone workload phase source total made asked)
    (done : worker.isDone) :
    asked = made.flatMap Transaction.requests ∧ ∃ others,
      workload.drawAlone phase source total = .ok (others, worker.session.source) ∧
        made.map Transaction.unkeyed = others.map Transaction.unkeyed := by
  rcases Worker.isDone_iff.mp done with ⟨ahead, ready⟩
  have remaining := alone.remaining
  have drawn := alone.drawn
  rw [ahead, List.length_nil, Nat.add_zero] at remaining
  rw [remaining] at drawn
  refine ⟨?_, drawn⟩
  simpa [ready, Activity.outstanding] using alone.asked

theorem Worker.Alone.same (alone : worker.Alone workload phase source total made asked)
    (otherAlone : other.Alone workload phase source total otherMade otherAsked)
    (done : worker.isDone) (otherDone : other.isDone) :
    made.map Transaction.unkeyed = otherMade.map Transaction.unkeyed ∧
      asked.map Request.unkeyed = otherAsked.map Request.unkeyed ∧
      worker.session.source = other.session.source := by
  rcases alone.finished done with ⟨rfl, others, drawn, similar⟩
  rcases otherAlone.finished otherDone with ⟨rfl, _, otherDrawn, otherSimilar⟩
  rcases Prod.mk.inj (Except.ok.inj (drawn.symm.trans otherDrawn)) with ⟨rfl, sources⟩
  have transactions := similar.trans otherSimilar.symm
  refine ⟨transactions, ?_, sources⟩
  rw [map_unkeyed_requests, transactions, ← map_unkeyed_requests]

end Finished

theorem countP_insert_unkeyed (made : List Transaction) :
    (made.map Transaction.unkeyed).countP (·.operation = .insert) =
      made.countP (·.operation = .insert) := by
  rw [List.countP_map]
  rfl

section Complete

variable {σ S H S' H' : Type} [WordSource σ] [Backend S H] [Backend S' H']
variable {properties : Properties} {configured workload : Workload} {phase : Phase}
variable {threads total : Nat} {sources : Nat → σ} {store : S} {otherStore : S'}
variable {history otherHistory : List (Event (Fin threads))}
variable {last : Crew (Fin threads) σ S H} {other : Crew (Fin threads) σ S' H'}

/-- In a phase of a workload with even draws or without inserts, any order of the workers and any
store lead each worker to the same transactions and calls, but for the numbers of its inserts, and
through the same words, and all of them together to the same numbers. -/
theorem Interleaving.schedule_independent
    (accepted : Workload.ofProperties properties = .ok configured)
    (unswayed : configured.requestDistribution = .uniform ∨
      ∃ weight, Properties.orDefault Properties.getFloat properties "insertproportion" 0 =
        .ok weight ∧ ¬0 < weight)
    (reached : Workload.Reached configured workload)
    (run : Interleaving (Crew.opened phase threads total sources ⟨workload, store⟩) history last)
    (finished : last.Finished)
    (otherRun : Interleaving (Crew.opened phase threads total sources ⟨workload, otherStore⟩)
      otherHistory other)
    (otherFinished : other.Finished) :
    (∀ name,
      (drawnBy name history).map Transaction.unkeyed =
          (drawnBy name otherHistory).map Transaction.unkeyed ∧
        (askedBy name history).map Request.unkeyed =
          (askedBy name otherHistory).map Request.unkeyed ∧
        (last.worker name).session.source = (other.worker name).session.source) ∧
      ∀ number,
        Dispensed (Crew.opened phase threads total sources ⟨workload, store⟩) history number ↔
          Dispensed (Crew.opened phase threads total sources ⟨workload, otherStore⟩)
            otherHistory number := by
  have known := Workload.configured_of_ofProperties accepted
  have unswayed : configured.requestDistribution = .uniform ∨
      .insert ∉ configured.operations.entries.map Prod.fst :=
    unswayed.imp_right fun ⟨_, read, notPositive⟩ => known.insert_notMem read notPositive
  have within := Crew.opened_within phase threads total sources ⟨workload, store⟩
  have otherWithin := Crew.opened_within phase threads total sources ⟨workload, otherStore⟩
  have each (name : Fin threads) :=
    (run.alone known unswayed reached (fun _ => rfl) within name).same
      (otherRun.alone known unswayed reached (fun _ => rfl) otherWithin name)
      (finished name) (otherFinished name)
  refine ⟨each, fun number => ?_⟩
  have same : inserts history = inserts otherHistory := by
    rw [inserts_eq_sum, inserts_eq_sum]
    refine Finset.sum_congr rfl fun name _ => ?_
    rw [← countP_insert_unkeyed, (each name).1, countP_insert_unkeyed]
  rw [run.dispensed_iff, otherRun.dispensed_iff, same]
  rfl

end Complete

/-! Two workers with one insert each. -/

def Crew.twoInserters {S H : Type} [Backend S H] (store : S) : Crew (Fin 2) Script S H :=
  .opened .transactions 2 2 (fun _ => .ofList [18446744073709551615]) ⟨.ofOnePair, store⟩

def Scripted.withoutInserts : Scripted := ⟨[], [], [], [.forbidden], []⟩

/-- The workers go one after the other on a store that keeps records, and the other way round on
one that refuses them. They insert the same record, under another number. -/
theorem Interleaving.schedule_independent_twoInserters :
    Workload.ofProperties Workload.onePair = .ok .ofOnePair ∧
      Workload.ofOnePair.requestDistribution = .uniform ∧
      Workload.Reached .ofOnePair .ofOnePair ∧
      ∃ history last otherHistory other,
        Interleaving (Crew.twoInserters (Store.ordered ∅)) history last ∧ last.Finished ∧
        Interleaving (Crew.twoInserters Scripted.withoutInserts) otherHistory other ∧
        other.Finished ∧
        (drawnBy 0 history).map Transaction.number? = [some 0] ∧
        (drawnBy 0 otherHistory).map Transaction.number? = [some 1] ∧
        (drawnBy 0 history).map Transaction.unkeyed =
          (drawnBy 0 otherHistory).map Transaction.unkeyed := by
  have accepted : Workload.ofProperties Workload.onePair = .ok .ofOnePair :=
    Workload.ofProperties_onePair
  have moved : ((Crew.twoInserters (Store.ordered ∅)).follow [0, 0, 0, 1, 1, 1]).map
      (fun (history, last) => (decide last.Finished, (drawnBy 0 history).map (·.number?))) =
      some (true, [some 0]) := by decide +kernel
  have otherMoved : ((Crew.twoInserters Scripted.withoutInserts).follow [1, 1, 1, 0, 0, 0]).map
      (fun (history, last) => (decide last.Finished, (drawnBy 0 history).map (·.number?))) =
      some (true, [some 1]) := by decide +kernel
  rcases Option.map_eq_some_iff.mp moved with ⟨⟨history, last⟩, followed, equal⟩
  rcases Option.map_eq_some_iff.mp otherMoved with
    ⟨⟨otherHistory, other⟩, otherFollowed, otherEqual⟩
  rcases Prod.mk.inj equal with ⟨finished, zero⟩
  rcases Prod.mk.inj otherEqual with ⟨otherFinished, one⟩
  have run := Interleaving.start.of_follow followed
  have otherRun := Interleaving.start.of_follow otherFollowed
  rcases schedule_independent accepted (.inl rfl) .start run (of_decide_eq_true finished) otherRun
    (of_decide_eq_true otherFinished) with ⟨each, _⟩
  exact ⟨accepted, rfl, .start, history, last, otherHistory, other, run, of_decide_eq_true finished,
    otherRun, of_decide_eq_true otherFinished, zero, one, (each 0).1⟩

end StoreBench
