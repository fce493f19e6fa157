import StoreBench.Workload.Drawing

namespace StoreBench

/-! What a worker is about to do: the calls to the store are settled before the first
one is made, since nothing that a store answers has an influence on them. -/

structure Transaction where
  operation : Operation
  earlier : List Request
  /-- The call whose outcome is the outcome of the operation. -/
  deciding : Request
  /-- The key number to acknowledge once the deciding call has succeeded. -/
  number? : Option UInt64

namespace Transaction

def requests (transaction : Transaction) : List Request :=
  transaction.earlier ++ [transaction.deciding]

end Transaction

namespace Workload

variable {σ : Type} [WordSource σ]

/-- Insert the next record of the load phase. Loaded records lie below the frontier
from the start, so they are not acknowledged. -/
def nextLoad : Drawing σ Transaction := do
  let number ← nextNumber
  let key ← keyWith number
  let values ← drawRecord
  let table := (← get).1.table
  return ⟨.insert, [], .insert table key values, none⟩

def nextRead : Drawing σ Transaction := do
  let key ← keyWith (← drawTarget)
  let fields ← drawWanted
  let table := (← get).1.table
  return ⟨.read, [], .read table key fields, none⟩

def nextUpdate : Drawing σ Transaction := do
  let key ← keyWith (← drawTarget)
  let values ← drawUpdate
  let table := (← get).1.table
  return ⟨.update, [], .update table key values, none⟩

def nextInsert : Drawing σ Transaction := do
  let number ← nextNumber
  let key ← keyWith number
  let values ← drawRecord
  let table := (← get).1.table
  return ⟨.insert, [], .insert table key values, some number⟩

def nextScan : Drawing σ Transaction := do
  let key ← keyWith (← drawTarget)
  let length ← drawScanLength
  let fields ← drawWanted
  let table := (← get).1.table
  return ⟨.scan, [], .scan table key length.toNat fields, none⟩

/-- Read a record and then update it, whether or not it was found. -/
def nextReadModifyWrite : Drawing σ Transaction := do
  let key ← keyWith (← drawTarget)
  let fields ← drawWanted
  let values ← drawUpdate
  let table := (← get).1.table
  return ⟨.readModifyWrite, [.read table key fields], .update table key values, none⟩

def nextTransaction : Drawing σ Transaction := do
  match ← drawOperation with
  | .read => nextRead
  | .update => nextUpdate
  | .insert => nextInsert
  | .scan => nextScan
  | .readModifyWrite => nextReadModifyWrite

def settle (workload : Workload) (transaction : Transaction) (status : Status) :
    Except Crash Workload :=
  match transaction.number? with
  | some number => if status.isOk then workload.acknowledge number else .ok workload
  | none => .ok workload

end Workload
end StoreBench
