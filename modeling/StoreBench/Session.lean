import StoreBench.Workload.Transaction

namespace StoreBench

/-! The session of one worker: a supply of random words and a handle of the store.
The workload and the store are shared with the other workers. A transaction has
three kinds of steps: it is drawn, its calls are answered one after the other, and
its outcome is settled. Steps of several sessions may come in any order. -/

structure World (S : Type) where
  workload : Workload
  store : S

structure Session (σ H : Type) where
  source : σ
  handle : H

structure Outcome where
  operation : Operation
  status : Status
  calls : List Call

namespace Session

variable {σ S H : Type}

def start [Backend S H] (source : σ) (world : World S) : Session σ H :=
  ⟨source, Backend.openHandle world.store⟩

def draw {α : Type} (drawing : Drawing σ α) (session : Session σ H) (world : World S) :
    Except Crash (α × Session σ H × World S) := do
  let (value, workload, source) ← drawing.run (world.workload, session.source)
  return (value, { session with source }, { world with workload })

def ask [Backend S H] (request : Request) (session : Session σ H) (world : World S) :
    Answer × Session σ H × World S :=
  let (answer, store, handle) := Backend.answer request world.store session.handle
  (answer, { session with handle }, { world with store })

def askAll [Backend S H] : List Request → Session σ H → World S →
    List Call × Session σ H × World S
  | [], session, world => ([], session, world)
  | request :: rest, session, world =>
      let (answer, session, world) := session.ask request world
      let (calls, session, world) := askAll rest session world
      (.exchange request answer :: calls, session, world)

/-- Run a whole transaction: draw it, have its calls answered, settle it. -/
def perform [Backend S H] (drawing : Drawing σ Transaction) (session : Session σ H)
    (world : World S) : Except Crash (Outcome × Session σ H × World S) := do
  let (transaction, session, world) ← session.draw drawing world
  let (earlier, session, world) := askAll transaction.earlier session world
  let (answer, session, world) := session.ask transaction.deciding world
  let workload ← world.workload.settle transaction answer.status
  let calls := earlier ++ [.exchange transaction.deciding answer]
  return (⟨transaction.operation, answer.status, calls⟩, session, { world with workload })

def load [WordSource σ] [Backend S H] (session : Session σ H) (world : World S) :
    Except Crash (Outcome × Session σ H × World S) :=
  session.perform Workload.nextLoad world

def transact [WordSource σ] [Backend S H] (session : Session σ H) (world : World S) :
    Except Crash (Outcome × Session σ H × World S) :=
  session.perform Workload.nextTransaction world

end Session
end StoreBench
