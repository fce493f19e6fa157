namespace StoreBench

/-! The kinds of transactions that a workload issues. -/

inductive Operation where
  | insert
  | read
  | update
  | scan
  | readModifyWrite
  deriving DecidableEq, Repr

namespace Operation

def all : List Operation := [.insert, .read, .update, .scan, .readModifyWrite]

def index : Operation → Nat
  | .insert => 0
  | .read => 1
  | .update => 2
  | .scan => 3
  | .readModifyWrite => 4

theorem all_index (operation : Operation) : all[operation.index]? = some operation := by
  cases operation <;> rfl

def position (operation : Operation) : Fin all.length :=
  ⟨operation.index, by cases operation <;> decide⟩

theorem position_get (place : Fin all.length) : (all.get place).position = place := by
  revert place
  decide

theorem position_injective : Function.Injective position := by
  intro operation other same
  cases operation <;> cases other <;> first | rfl | cases congrArg Fin.val same

def name : Operation → String
  | .insert => "insert"
  | .read => "read"
  | .update => "update"
  | .scan => "scan"
  | .readModifyWrite => "readmodifywrite"

end Operation
end StoreBench
