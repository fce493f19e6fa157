import StoreBench.Proofs.Interleaving.Steps

namespace StoreBench

/-! Transactions that are performed as a whole. A worker that goes through all steps of a
transaction before another worker makes one is a special case of an interleaving, and the outcome
of the transaction holds exactly the calls that are seen along the way. -/

def Event.call? {ι : Type} : Event ι → Option Call
  | .asked _ _ _ request answer => some (.exchange request answer)
  | _ => none

def callsSeen {ι : Type} (history : List (Event ι)) : List Call := history.filterMap Event.call?

theorem callsSeen_append {ι : Type} (first second : List (Event ι)) :
    callsSeen (first ++ second) = callsSeen first ++ callsSeen second :=
  List.filterMap_append

variable {ι σ S H : Type}

def Call.event? (name : ι) (phase : Phase) (transaction : Transaction) : Call → Option (Event ι)
  | .exchange request answer => some (.asked name phase transaction request answer)
  | .start | .cleanup => none

def Outcome.history (name : ι) (phase : Phase) (transaction : Transaction) (outcome : Outcome) :
    List (Event ι) :=
  .drew name phase transaction ::
    outcome.calls.filterMap (Call.event? name phase transaction) ++
      [.settled name phase transaction outcome.status]

theorem Outcome.callsSeen_history (name : ι) (phase : Phase) (transaction : Transaction)
    (outcome : Outcome) :
    callsSeen (outcome.history name phase transaction) =
      callsSeen (outcome.calls.filterMap (Call.event? name phase transaction)) := by
  rw [history, callsSeen_append]
  exact List.append_nil _

theorem Outcome.worker_of_history {name : ι} {phase : Phase} {transaction : Transaction}
    {outcome : Outcome} {event : Event ι}
    (member : event ∈ outcome.history name phase transaction) :
    event.worker = name := by
  simp only [history, List.mem_append, List.mem_cons, List.mem_filterMap, List.not_mem_nil,
    or_false] at member
  rcases member with (rfl | ⟨call, _, seen⟩) | rfl
  · rfl
  · cases call <;> cases seen
    rfl
  · rfl

variable [DecidableEq ι]

namespace Crew

variable {crew : Crew ι σ S H} {name : ι}

theorem move_same {worker : Worker σ H} (same : crew.worker name = worker) :
    crew.move name worker crew.world = crew := by
  rw [move, ← same, Function.update_eq_self]

theorem move_move (first second : Worker σ H) (middle world : World S) :
    (crew.move name first middle).move name second world = crew.move name second world := by
  rw [move, move, Function.update_idem, move]

end Crew

variable [WordSource σ] [Backend S H]

theorem Interleaving.append {first middle last : Crew ι σ S H}
    {earlier later : List (Event ι)} (run : Interleaving first earlier middle)
    (rest : Interleaving middle later last) : Interleaving first (earlier ++ later) last := by
  induction rest with
  | start => rwa [List.append_nil]
  | step others next induction =>
      rw [← List.append_assoc]
      exact induction.step next

section Perform

variable {crew : Crew ι σ S H} {name : ι} {session after : Session σ H} {ahead : List Phase}
variable {phase : Phase} {transaction : Transaction} {world : World S}

theorem Session.askAll_interleaving {earlier : List Request} {calls : List Call}
    (asking : crew.worker name = ⟨session, ahead, .asking phase transaction earlier⟩)
    (asked : session.askAll earlier crew.world = (calls, after, world)) :
    callsSeen (calls.filterMap (Call.event? name phase transaction)) = calls ∧
      Interleaving crew (calls.filterMap (Call.event? name phase transaction))
        (crew.move name ⟨after, ahead, .asking phase transaction []⟩ world) := by
  induction earlier generalizing crew session calls with
  | nil =>
      cases asked
      refine ⟨rfl, ?_⟩
      rw [Crew.move_same asking]
      exact .start
  | cons request rest induction =>
      rcases answered : session.ask request crew.world with ⟨answer, next, middle⟩
      rcases others : askAll rest next middle with ⟨more, last, final⟩
      simp only [askAll, answered, others] at asked
      cases asked
      have step := Step.askEarlier asking answered
      rcases induction (crew.move_worker_same name _ _) others with ⟨seen, run⟩
      rw [Crew.move_move] at run
      refine ⟨?_, (Interleaving.start.step step).append run⟩
      exact congrArg (Call.exchange request answer :: ·) seen

theorem Session.perform_interleaving {outcome : Outcome}
    (ready : crew.worker name = ⟨session, phase :: ahead, .ready⟩)
    (performed : session.perform phase.drawing crew.world = .ok (outcome, after, world)) :
    ∃ transaction, transaction.operation = outcome.operation ∧
      callsSeen (outcome.history name phase transaction) = outcome.calls ∧
      Interleaving crew (outcome.history name phase transaction)
        (crew.move name ⟨after, ahead, .ready⟩ world) := by
  rcases bind_eq_ok_iff.mp performed with ⟨⟨transaction, first, drawnWorld⟩, drawn, performed⟩
  rcases asked : askAll transaction.earlier first drawnWorld with ⟨calls, second, askedWorld⟩
  rcases decided : second.ask transaction.deciding askedWorld with ⟨answer, last, decidedWorld⟩
  simp only [asked, decided] at performed
  rcases bind_eq_ok_iff.mp performed with ⟨workload, settled, performed⟩
  cases performed
  have draw := Step.draw ready drawn
  have asking := crew.move_worker_same name
    ⟨first, ahead, .asking phase transaction transaction.earlier⟩ drawnWorld
  rcases askAll_interleaving asking asked with ⟨seen, run⟩
  rw [Crew.move_move] at run
  have waiting := crew.move_worker_same name ⟨second, ahead, .asking phase transaction []⟩
    askedWorld
  have decide := Step.askDeciding waiting decided
  rw [Crew.move_move] at decide
  have ended := crew.move_worker_same name ⟨after, ahead, .answered phase transaction answer.status⟩
    decidedWorld
  have settle := Step.settle ended settled
  rw [Crew.move_move] at settle
  have whole := (((Interleaving.start.step draw).append run).step decide).step settle
  refine ⟨transaction, rfl, ?_, ?_⟩
  · rw [Outcome.callsSeen_history, List.filterMap_append, callsSeen_append, seen]
    rfl
  · simpa [Outcome.history, Call.event?] using whole

end Perform

end StoreBench
