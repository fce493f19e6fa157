import StoreBench.Crash

namespace StoreBench

/-! Tasks that run beside each other. Each adds to a sum that all of them share, and
may then give up. -/

structure Task where
  amount : UInt64
  complaint? : Option String

namespace Task

def join (task : Task) : Except Crash Unit :=
  match task.complaint? with
  | some text => .error (.task text)
  | none => .ok ()

/-- The sum after all tasks. The order in which they add to it makes no difference. -/
def sum (tasks : List Task) : UInt64 := tasks.foldl (fun sum task => sum + task.amount) 0

end Task
end StoreBench
