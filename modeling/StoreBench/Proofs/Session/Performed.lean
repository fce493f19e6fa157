import StoreBench.Proofs.Drawing.Transactions

namespace StoreBench

/-! What comes of a transaction that a worker performs as a whole. It is drawn from the shared
workload, the store is asked its calls in order and nothing else, and the answer to the last of
them decides on the outcome, by which the transaction is settled. -/

def Call.request? : Call → Option Request
  | .exchange request _ => some request
  | .start | .cleanup => none

def Outcome.requests (outcome : Outcome) : List Request := outcome.calls.filterMap Call.request?

/-- The outcome of a transaction: all its requests were answered, and the answer to the deciding
one is the outcome. -/
structure Outcome.CameOf (outcome : Outcome) (transaction : Transaction) : Prop where
  operation : outcome.operation = transaction.operation
  exchanged : outcome.calls.map Call.request? = transaction.requests.map some
  decided : ∃ answer, outcome.calls.getLast? = some (.exchange transaction.deciding answer) ∧
    outcome.status = answer.status

theorem Outcome.CameOf.requests {outcome : Outcome} {transaction : Transaction}
    (came : outcome.CameOf transaction) : outcome.requests = transaction.requests := by
  have kept := congrArg (List.filterMap id) came.exchanged
  simpa [Outcome.requests] using kept

variable {σ S H : Type} [Backend S H]

def Backend.answerAll : List Request → S → H → List Call × S × H
  | [], store, handle => ([], store, handle)
  | request :: rest, store, handle =>
      let (answer, store, handle) := Backend.answer request store handle
      let (calls, store, handle) := answerAll rest store handle
      (.exchange request answer :: calls, store, handle)

theorem Backend.answerAll_append (first second : List Request) (store : S) (handle : H) :
    Backend.answerAll (first ++ second) store handle =
      let (calls, store, handle) := Backend.answerAll first store handle
      let (others, store, handle) := Backend.answerAll second store handle
      (calls ++ others, store, handle) := by
  induction first generalizing store handle with
  | nil => rfl
  | cons request rest induction =>
      simp only [List.cons_append, answerAll, induction]

theorem Backend.request?_answerAll (requests : List Request) (store : S) (handle : H) :
    (Backend.answerAll requests store handle).1.map Call.request? = requests.map some := by
  induction requests generalizing store handle with
  | nil => rfl
  | cons request rest induction =>
      simp only [answerAll, List.map_cons, induction]
      rfl

namespace Session

theorem askAll_eq (requests : List Request) (session : Session σ H) (world : World S) :
    session.askAll requests world =
      let (calls, store, handle) := Backend.answerAll requests world.store session.handle
      (calls, { session with handle }, { world with store }) := by
  induction requests generalizing session world with
  | nil => rfl
  | cons request rest induction =>
      rw [askAll, Backend.answerAll]
      simp only [induction]
      rfl

theorem performed {drawing : Drawing σ Transaction} {session after : Session σ H}
    {world later : World S} {outcome : Outcome}
    (performed : session.perform drawing world = .ok (outcome, after, later)) :
    ∃ transaction workload,
      drawing.run (world.workload, session.source) = .ok (transaction, workload, after.source) ∧
      outcome.CameOf transaction ∧
      Backend.answerAll outcome.requests world.store session.handle =
        (outcome.calls, later.store, after.handle) ∧
      workload.settle transaction outcome.status = .ok later.workload := by
  rcases bind_eq_ok_iff.mp performed with ⟨⟨transaction, first, drawnWorld⟩, drawn, performed⟩
  rcases draw_eq_ok_iff.mp drawn with ⟨workload, source, run, rfl, rfl⟩
  simp only [askAll_eq] at performed
  rcases asked : Backend.answerAll transaction.earlier world.store session.handle with
    ⟨calls, store, handle⟩
  rcases decided : Backend.answer transaction.deciding store handle with ⟨answer, last, final⟩
  simp only [asked, ask, decided] at performed
  rcases bind_eq_ok_iff.mp performed with ⟨settled, settles, performed⟩
  cases performed
  have all : Backend.answerAll transaction.requests world.store session.handle =
      (calls ++ [.exchange transaction.deciding answer], last, final) := by
    simp only [Transaction.requests, Backend.answerAll_append, asked, Backend.answerAll, decided]
  have came : Outcome.CameOf ⟨transaction.operation, answer.status,
      calls ++ [.exchange transaction.deciding answer]⟩ transaction := by
    refine ⟨rfl, ?_, answer, List.getLast?_concat, rfl⟩
    have exchanged := Backend.request?_answerAll transaction.requests world.store session.handle
    rwa [all] at exchanged
  refine ⟨transaction, workload, run, came, ?_, settles⟩
  rw [came.requests]
  exact all

end Session
end StoreBench
