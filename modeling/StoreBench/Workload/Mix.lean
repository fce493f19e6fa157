import StoreBench.Distribution.Weighted
import StoreBench.Workload.Operation

namespace StoreBench

/-! How often each operation is run. -/

structure Proportions where
  read : Float
  update : Float
  insert : Float
  scan : Float
  readModifyWrite : Float

namespace Proportions

def weights (proportions : Proportions) : List (Operation × Float) :=
  [(.read, proportions.read), (.update, proportions.update),
    (.insert, proportions.insert), (.scan, proportions.scan),
    (.readModifyWrite, proportions.readModifyWrite)]

/-- The weights above zero. The other operations are never run. -/
def positive (proportions : Proportions) : List (Operation × Float) :=
  proportions.weights.filter fun (_, weight) => decide (0 < weight)

def mix (proportions : Proportions) : Weighted Operation :=
  proportions.positive.foldl (fun mix (operation, weight) => mix.add operation weight) .empty

end Proportions
end StoreBench
