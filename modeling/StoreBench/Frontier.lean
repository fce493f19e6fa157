import Std.Data.TreeSet
import StoreBench.Counter
import StoreBench.Crash

namespace StoreBench

/-! The insertion frontier is the highest number below which every number is
known to be inserted. Numbers are acknowledged in any order. One that is not next
in line waits until the gap below it closes, so a number that is still being
inserted, or that was never inserted, holds back all numbers above it. -/

structure Frontier where
  limit : Counter
  waiting : Std.TreeSet UInt64

namespace Frontier

/-- Every number below `start` counts as acknowledged. -/
def startingAt (start : UInt64) : Frontier := ⟨Counter.startingAt start, ∅⟩

def last (frontier : Frontier) : UInt64 := frontier.limit.last

def pending (frontier : Frontier) : Nat := frontier.waiting.size

def advance : Nat → UInt64 → Std.TreeSet UInt64 → Except Crash Frontier
  | 0, next, waiting => .ok ⟨⟨next⟩, waiting⟩
  | steps + 1, next, waiting =>
      if waiting.contains next then do
        let following ← checkedAdd next 1
        advance steps following (waiting.erase next)
      else .ok ⟨⟨next⟩, waiting⟩

/-- Take note that a number is inserted. A number at or below the frontier is
already known. Each step past the frontier uses up one waiting number, so their
count bounds the steps. -/
def acknowledge (frontier : Frontier) (number : UInt64) : Except Crash Frontier :=
  let next := frontier.limit.upcoming
  if number < next then .ok frontier
  else
    let waiting := frontier.waiting.insert number
    advance waiting.size next waiting

end Frontier
end StoreBench
