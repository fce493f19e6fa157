import StoreBench.Store.Request
import StoreBench.Workload.Basic

namespace StoreBench

/-! What workers draw from a workload. A draw takes random words from the worker's own
supply and may move the choices and counters that all workers share. -/

abbrev Drawing (σ : Type) := StateT (Workload × σ) (Except Crash)

namespace Workload

variable {σ : Type} [WordSource σ]

def drawValueLength : Drawing σ UInt64 := do
  let (workload, source) ← get
  let (length, valueLength, source) ← workload.valueLength.draw source
  set ({ workload with valueLength }, source)
  return length

def drawScanLength : Drawing σ UInt64 := do
  let (workload, source) ← get
  let (length, scanLength, source) ← workload.scanLength.draw source
  set ({ workload with scanLength }, source)
  return length

def drawOperation : Drawing σ Operation := do
  let (workload, source) ← get
  let (operation, operations, source) ← workload.operations.draw source
  set ({ workload with operations }, source)
  return operation

def drawFieldName : Drawing σ String := do
  let (workload, source) ← get
  let (index, fields, source) := workload.fields.draw source
  set ({ workload with fields }, source)
  return Plan.fieldName index.toNat

/-! ## Records -/

def drawValue : Drawing σ String := do
  let length ← drawValueLength
  let (workload, source) ← get
  let (value, source) ← (drawPrintable length.toNat source : Except Crash (String × σ))
  set (workload, source)
  return value

def drawValues : List String → Drawing σ Record
  | [] => return []
  | name :: rest => do
      let value ← drawValue
      let others ← drawValues rest
      return (name, value) :: others

def drawRecord : Drawing σ Record := do
  drawValues (← get).1.fieldNames

def drawOneField : Drawing σ Record := do
  let name ← drawFieldName
  drawValues [name]

def drawUpdate : Drawing σ Record := do
  if (← get).1.writeAllFields then drawRecord else drawOneField

/-- The fields that a read asks for. An empty list asks for all of them. -/
def drawWanted : Drawing σ (List String) := do
  if (← get).1.readAllFields then return []
  else return [← drawFieldName]

/-! ## Keys -/

def nextNumber : Drawing σ UInt64 := do
  let (workload, source) ← get
  let (number, keySequence) := workload.keySequence.next
  set ({ workload with keySequence }, source)
  return number

def drawNumber : Drawing σ UInt64 := do
  let (workload, source) ← get
  let (number, keys, source) ← workload.keys.draw workload.frontier.last source
  set ({ workload with keys }, source)
  return number

def drawTargetWithin : Nat → Drawing σ UInt64
  | 0 => throw .redrawLimit
  | draws + 1 => do
      let number ← drawNumber
      if number ≤ (← get).1.frontier.last then return number
      else drawTargetWithin draws

/-- More draws than any run can make. -/
def redrawLimit : Nat := 4611686018427387904

def drawTarget : Drawing σ UInt64 := drawTargetWithin redrawLimit

def keyWith (number : UInt64) : Drawing σ String := do
  return (← get).1.keyName number

end Workload

def Workload.acknowledge (workload : Workload) (number : UInt64) :
    Except Crash Workload := do
  return { workload with frontier := ← workload.frontier.acknowledge number }

end StoreBench
