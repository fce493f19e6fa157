import StoreBench.Cycle
import StoreBench.Store.Request

namespace StoreBench

/-! A store that keeps nothing and answers from a script. Every handle goes through
the outcomes for each kind of call in turn, and then again from the first. -/

/-- The outcomes for each kind of call. A kind without outcomes always succeeds. -/
structure Scripted where
  read : List Status
  scan : List Status
  update : List Status
  insert : List Status
  delete : List Status

structure CallCounts where
  read : Nat
  scan : Nat
  update : Nat
  insert : Nat
  delete : Nat

namespace Scripted

def outcome (outcomes : List Status) (position : Nat) : Status :=
  (cyclic? outcomes position).getD .ok

def answer (scripted : Scripted) (counts : CallCounts) : Request → Answer × CallCounts
  | .read .. =>
      (.only (outcome scripted.read counts.read), { counts with read := counts.read + 1 })
  | .scan .. =>
      (.only (outcome scripted.scan counts.scan), { counts with scan := counts.scan + 1 })
  | .update .. =>
      (.only (outcome scripted.update counts.update),
        { counts with update := counts.update + 1 })
  | .insert .. =>
      (.only (outcome scripted.insert counts.insert),
        { counts with insert := counts.insert + 1 })
  | .delete .. =>
      (.only (outcome scripted.delete counts.delete),
        { counts with delete := counts.delete + 1 })

example :
    (mk [.notFound] [] [] [] []).answer ⟨0, 0, 0, 0, 0⟩ (.read "t" "k" []) =
      (.only .notFound, ⟨1, 0, 0, 0, 0⟩) := rfl

instance : Backend Scripted CallCounts where
  openHandle _ := ⟨0, 0, 0, 0, 0⟩
  answer request scripted counts :=
    let (answer, counts) := scripted.answer counts request
    (answer, scripted, counts)
  log _ _ := []

end Scripted
end StoreBench
