import StoreBench.Proofs.Configured
import StoreBench.Proofs.Interleaving.History
import StoreBench.Store.Scripted

namespace StoreBench

/-! The frontier follows the inserts. Whatever the store answers, and in whatever order
workers take their steps, a number that the frontier has passed belongs to a record that
is loaded or to an insert that has succeeded. -/

namespace Interleaving

variable {ι σ S H : Type} [DecidableEq ι] [WordSource σ] [Backend S H]
variable {first last next : Crew ι σ S H} {history : List (Event ι)} {properties : Properties}

theorem last_le (accepted : Workload.ofProperties properties = .ok first.world.workload)
    (run : Interleaving first history last) {event : Event ι} (step : Step last event next) :
    last.world.workload.frontier.last ≤ next.world.workload.frontier.last := by
  have configured := Workload.configured_of_ofProperties accepted
  apply (run.covers configured.frontier).last_le ((run.step step).covers configured.frontier)
    configured.recordCount_positive
  intro number known
  rw [List.flatMap_append]
  exact List.mem_append_left _ known

theorem inserted_of_acknowledged (ready : ∀ name, (first.worker name).activity = .ready)
    (run : Interleaving first history last) {number : UInt64}
    (acknowledged : number ∈ history.flatMap Event.acknowledged) :
    ∃ name values status, status.isOk ∧
      Answered history name .transactions
        ⟨.insert, [], .insert first.world.workload.table
          (first.world.workload.keyName number) values, some number⟩ status := by
  rcases List.mem_flatMap.mp acknowledged with ⟨event, member, inside⟩
  cases event with
  | drew | asked => cases inside
  | settled name phase transaction status =>
      rcases Transaction.mem_acknowledged_iff.mp inside with ⟨successful, numbered⟩
      have answered := run.answered_of_settled ready member
      rcases run.drawn_of_drew answered.1 with ⟨before, after, drawn, plan⟩
      rcases drawn.of_number numbered with ⟨rfl, values, rfl⟩
      rw [plan] at answered
      exact ⟨name, values, status, successful, answered⟩

/-- The frontier covers the loaded records from the start, never moves back, stays where
it is while records are loaded, and passes a number only after an insert with that number
was drawn and answered with success. -/
theorem frontier_inserted
    (accepted : Workload.ofProperties properties = .ok first.world.workload)
    (ready : ∀ name, (first.worker name).activity = .ready)
    (run : Interleaving first history last) :
    first.world.workload.recordCount - 1 ≤ last.world.workload.frontier.last ∧
      (∀ event next, Step last event next →
        last.world.workload.frontier.last ≤ next.world.workload.frontier.last) ∧
      (∀ event next, Step last event next → event.phase = .load →
        next.world.workload.frontier = last.world.workload.frontier) ∧
      ∀ number, first.world.workload.recordCount ≤ number →
        number ≤ last.world.workload.frontier.last →
        ∃ name values status, status.isOk ∧
          Answered history name .transactions
            ⟨.insert, [], .insert first.world.workload.table
              (first.world.workload.keyName number) values, some number⟩ status := by
  have configured := Workload.configured_of_ofProperties accepted
  have positive := configured.recordCount_positive
  have covers := run.covers configured.frontier
  refine ⟨?_, fun event next => run.last_le accepted, ?_, ?_⟩
  · exact (Frontier.covers_startingAt _).last_le covers positive
      fun number => False.elim
  · intro event next step load
    have acknowledged := step.acknowledgeAll
    rw [(run.step step).acknowledged_of_load ready
      (List.mem_append_right _ (List.mem_singleton_self event)) load] at acknowledged
    exact (Except.ok.inj acknowledged).symm
  · intro number lower upper
    exact run.inserted_of_acknowledged ready (covers.known_of_le_last positive lower upper)

/-- Two workers that insert one record each, after the first of them has loaded one. Greatest words
make their transactions inserts. -/
def twoWriters : Crew (Fin 2) Script Scripted CallCounts where
  world := ⟨.ofOnePair, ⟨[], [], [], [], []⟩⟩
  worker name :=
    ⟨⟨.ofList [18446744073709551615], ⟨0, 0, 0, 0, 0⟩⟩,
      if name.val = 0 then [.load, .transactions] else [.transactions], .ready⟩

/-- The insert of the second worker is drawn after that of the first one, and settled before it. Its
number waits, and the frontier passes both numbers at once. -/
theorem frontier_inserted_twoWriters :
    Workload.ofProperties Workload.onePair = .ok twoWriters.world.workload ∧
      (∀ name, (twoWriters.worker name).activity = .ready) ∧
      ∃ past middle history last,
        Interleaving twoWriters past middle ∧
        middle.world.workload.frontier.last = 0 ∧ middle.world.workload.frontier.pending = 1 ∧
        Interleaving twoWriters (past ++ history) last ∧
        last.world.workload.frontier.last = 2 ∧
        ∀ number, 1 ≤ number → number ≤ 2 →
          ∃ name values status, status.isOk ∧ Answered (past ++ history) name .transactions
            ⟨.insert, [], .insert "usertable" (twoWriters.world.workload.keyName number) values,
              some number⟩ status := by
  have accepted : Workload.ofProperties Workload.onePair = .ok twoWriters.world.workload :=
    Workload.ofProperties_onePair
  have ready : ∀ name, (twoWriters.worker name).activity = .ready := fun _ => rfl
  have moved : (twoWriters.follow [0, 0, 0, 0, 1, 1, 1]).bind (fun (_, middle) =>
      (middle.follow [0, 0]).map fun (_, last) => (middle.world.workload.frontier.last,
        middle.world.workload.frontier.pending, last.world.workload.frontier.last)) =
      some (0, 1, 2) := by
    decide +kernel
  rcases Option.bind_eq_some_iff.mp moved with ⟨⟨past, middle⟩, followed, moved⟩
  rcases Option.map_eq_some_iff.mp moved with ⟨⟨history, last⟩, later, equal⟩
  simp only [Prod.mk.injEq] at equal
  rcases equal with ⟨standing, waiting, reached⟩
  have earlier := Interleaving.start.of_follow followed
  have run := earlier.of_follow later
  rcases frontier_inserted accepted ready run with ⟨_, _, _, inserted⟩
  refine ⟨accepted, ready, past, middle, history, last, earlier, standing, waiting, run, reached,
    fun number lower upper => inserted number lower ?_⟩
  rw [reached]
  exact upper

end Interleaving
end StoreBench
