import StoreBench.Frontier
import StoreBench.Hash
import StoreBench.Workload.KeyChoice
import StoreBench.Workload.Length
import StoreBench.Workload.Mix

namespace StoreBench

/-! A workload decides which keys, fields, values and operations the workers use.
All workers share one.

Key numbers come from two counters. The key sequence hands out the number of every
record that is inserted, in both phases of a run. The frontier starts below the
number of records and moves only when an insert among the transactions has
succeeded, and only over an unbroken run of such numbers. Transactions are aimed
at keys that are not past the frontier. -/

inductive KeyOrder where
  | hashed
  | ordered
  deriving DecidableEq, Repr

structure Plan where
  table : String
  fieldCount : UInt64
  readAllFields : Bool
  writeAllFields : Bool
  keyOrder : KeyOrder
  recordCount : UInt64
  operationCount? : Option UInt64
  requestDistribution : RequestDistribution

structure Workload extends Plan where
  valueLength : LengthChoice
  scanLength : LengthChoice
  operations : Weighted Operation
  keys : KeyChoice
  fields : Uniform
  keySequence : Counter
  /-- Every number up to the frontier is known to be inserted. -/
  frontier : Frontier

namespace Plan

def fieldName (index : Nat) : String := "field" ++ toString index

def fieldNames (plan : Plan) : List String :=
  (List.range plan.fieldCount.toNat).map fieldName

def keyName (plan : Plan) (number : UInt64) : String :=
  let shown := match plan.keyOrder with
    | .hashed => hashWord number
    | .ordered => number
  "user" ++ toString shown.toNat

/-- How many transactions are run: as many as there are records, unless the
configuration says otherwise. -/
def transactionCount (plan : Plan) : UInt64 := plan.operationCount?.getD plan.recordCount

end Plan
end StoreBench
