import StoreBench.Proofs.Session.Completing
import StoreBench.Store.Registry

namespace StoreBench

/-! The calls of one operation. Whatever a store answers, an operation that a worker performs is
made of the calls that belong to it, each of them as the properties of the workload ask for. -/

namespace Session

variable {σ S H : Type} [WordSource σ] [Backend S H] {properties : Properties} {first : Workload}
variable {sizes : Sizes} {phase : Phase} {session after : Session σ H} {world later : World S}
variable {outcome : Outcome}

/-- The store is asked exactly the calls that the operation is made of: one insert, read, update or
scan, or a read and then an update of the same record. Each goes to the configured table, under
the key of a number that is not past the frontier unless it is inserted, and asks for fields, holds
values or counts records as it should. Loads only insert. -/
theorem wellFormed_of_perform (accepted : Workload.ofProperties properties = .ok first)
    (given : sizes.Of properties) (reached : Workload.Reached first world.workload)
    (performed : session.perform phase.drawing world = .ok (outcome, after, later)) :
    (phase = .load → outcome.operation = .insert) ∧
      outcome.operation.MadeOf outcome.requests ∧
      Backend.answerAll outcome.requests world.store session.handle =
        (outcome.calls, later.store, after.handle) ∧
      ∀ request ∈ outcome.requests,
        request.WellFormed first.toPlan sizes world.workload.frontier.last := by
  have configured := Workload.configured_of_ofProperties accepted
  rcases Session.performed performed with ⟨transaction, workload, run, came, asked, _⟩
  have drawn := Workload.drawing_drawn run
  refine ⟨?_, ?_, asked, ?_⟩
  · rintro rfl
    rw [came.operation]
    cases drawn
    rfl
  · rw [came.operation, came.requests]
    exact drawn.madeOf
  · intro request member
    rw [came.requests] at member
    exact Workload.wellFormed_of_drawing configured given reached run member

end Session

def World.ofEveryOperation : World Store where
  workload := .ofEveryOperation
  store := [0, 1].foldl (fun store number =>
    (store.answer (.insert "usertable" (Workload.ofEveryOperation.keyName number)
      [("field0", "a"), ("field1", "b")])).2) (.ordered ∅)

def Session.choosing (operation : Operation) : Session Script Unit :=
  ⟨.ofList [Workload.wordFor operation, 18446744073709551615, 18446744073709551615, 3], ()⟩

theorem Session.wellFormed_of_perform_everyOperation :
    Workload.ofProperties Workload.everyOperation = .ok .ofEveryOperation ∧
      Sizes.Of Workload.everyOperation ⟨"constant", 1, 3⟩ ∧
      ∀ operation, ∃ outcome after later,
        (choosing operation).perform (Phase.drawing .transactions) World.ofEveryOperation =
            .ok (outcome, after, later) ∧
          outcome.operation = operation ∧ outcome.status = .ok ∧
          operation.MadeOf outcome.requests ∧
          ∀ request ∈ outcome.requests,
            request.WellFormed Workload.ofEveryOperation.toPlan ⟨"constant", 1, 3⟩ 1 := by
  have accepted : Workload.ofProperties Workload.everyOperation = .ok .ofEveryOperation :=
    Workload.ofProperties_everyOperation
  have given : Sizes.Of Workload.everyOperation ⟨"constant", 1, 3⟩ := ⟨rfl, rfl, rfl⟩
  refine ⟨accepted, given, fun operation => ?_⟩
  have computed : ((choosing operation).perform (Phase.drawing .transactions)
      World.ofEveryOperation).toOption.map (fun done => (done.1.operation, done.1.status)) =
        some (operation, .ok) := by
    cases operation <;> decide +kernel
  rcases Option.map_eq_some_iff.mp computed with ⟨⟨outcome, after, later⟩, done, equal⟩
  rcases Prod.mk.inj equal with ⟨chosen, successful⟩
  have performed := toOption_eq_some_iff.mp done
  rcases wellFormed_of_perform accepted given .start performed with ⟨_, madeOf, _, wellFormed⟩
  exact ⟨outcome, after, later, performed, chosen, successful, chosen ▸ madeOf, wellFormed⟩

end StoreBench
