import StoreBench.Store.Status

namespace StoreBench

/-! What is asked of a store, and what it answers. -/

abbrev Field := String × String

abbrev Record := List Field

/-- A call to a store. An empty list of fields asks for all fields. -/
inductive Request where
  | read (table key : String) (fields : List String)
  /-- Read up to `count` records in the order of their keys, from the first key that
  is not below the start. -/
  | scan (table start : String) (count : Nat) (fields : List String)
  | update (table key : String) (values : Record)
  | insert (table key : String) (values : Record)
  | delete (table key : String)
  deriving DecidableEq, Repr

/-- The outcome of a call and the records that it found: at most one for a read, any
number for a scan, none for the other calls. -/
structure Answer where
  status : Status
  records : List Record
  deriving DecidableEq, Repr

def Answer.only (status : Status) : Answer := ⟨status, []⟩

def Answer.appendTo (answer : Answer) (fields : Record) : Record :=
  fields ++ answer.records.flatten

def Answer.appendAllTo (answer : Answer) (records : List Record) : List Record :=
  records ++ answer.records

inductive Call where
  | start
  | exchange (request : Request) (answer : Answer)
  | cleanup
  deriving DecidableEq, Repr

/-- A store that workers talk to, each through a handle of its own. What all handles
share is in the store; the handle keeps what belongs to one worker. -/
class Backend (S : Type) (H : outParam Type) where
  openHandle : S → H
  answer : Request → S → H → Answer × S × H
  log : S → Call → List String

end StoreBench
