import Mathlib.Logic.Function.Basic
import StoreBench.Proofs.Store.Records

namespace StoreBench

/-! The contents of a store as a plain map: under a table and a key there is a record or none.
A request that is about one record is answered from this record alone, revises it, and leaves
all others as they are. This holds of tables and of shards in the same words, so no request
that is about a single record tells them apart. -/

namespace Request

/-- The table and the key of the record that a request is about. A scan is about no single
record. -/
def target? : Request → Option (String × String)
  | .read table key _ | .update table key _ | .insert table key _ | .delete table key =>
      some (table, key)
  | .scan .. => none

def reply (record? : Option Fields) : Request → Answer
  | .read _ _ wanted =>
      match record? with
      | some fields => ⟨.ok, [fields.project wanted]⟩
      | none => .only .notFound
  | .update .. | .delete .. => .only (if record?.isSome then .ok else .notFound)
  | .insert .. => .only .ok
  | .scan .. => .only .notImplemented

def revise (record? : Option Fields) : Request → Option Fields
  | .read .. | .scan .. => record?
  | .update _ _ values => record?.map fun fields => fields.overwrite values
  | .insert _ _ values => some (.ofRecord values)
  | .delete .. => none

end Request

abbrev Contents := String → String → Option Fields

namespace Contents

def set (contents : Contents) (table key : String) (record? : Option Fields) : Contents :=
  fun other otherKey =>
    if other = table ∧ otherKey = key then record? else contents other otherKey

theorem set_self (contents : Contents) (table key : String) :
    contents.set table key (contents table key) = contents := by
  funext other otherKey
  unfold set
  split
  next same => rw [same.1, same.2]
  next => rfl

end Contents

/-! ## Tables -/

namespace Tables

variable {tables : Tables} {request : Request} {table key : String}

def contents (tables : Tables) : Contents := tables.record?

theorem contents_put (fields : Fields) :
    (tables.put table key fields).contents = tables.contents.set table key (some fields) :=
  funext₂ fun other otherKey => record?_put tables table key other otherKey fields

theorem contents_remove :
    (tables.remove table key).contents = tables.contents.set table key none :=
  funext₂ fun other otherKey => record?_remove tables table key other otherKey

theorem contents_self {record? : Option Fields} (found : tables.record? table key = record?) :
    tables.contents = tables.contents.set table key record? :=
  found ▸ (tables.contents.set_self table key).symm

theorem answer_eq_reply (target : request.target? = some (table, key)) :
    (tables.answer request).1 = request.reply (tables.contents table key) := by
  cases request with
  | scan => cases target
  | insert => rfl
  | read | update | delete =>
      cases target
      cases found : tables.record? table key <;>
        simp [answer, read, update, delete, Request.reply, contents, found]

theorem contents_answer (target : request.target? = some (table, key)) :
    (tables.answer request).2.contents =
      tables.contents.set table key (request.revise (tables.contents table key)) := by
  cases request with
  | scan => cases target
  | read =>
      cases target
      exact contents_self rfl
  | insert =>
      cases target
      exact contents_put _
  | update =>
      cases target
      cases found : tables.record? table key <;>
        simp only [answer, update, Request.revise, contents, found]
      · exact contents_self found
      · exact contents_put _
  | delete =>
      cases target
      cases found : tables.record? table key <;>
        simp only [answer, delete, Request.revise, found]
      · exact contents_self found
      · exact contents_remove

end Tables

/-! ## Shards -/

namespace Sharded

variable {sharded : Sharded} {request : Request} {table key : String}

def contents (sharded : Sharded) : Contents := fun table key =>
  (sharded.shard key).contents table key

theorem contents_setShard (tables : Tables) {record? : Option Fields}
    (revised : tables.contents = (sharded.shard key).contents.set table key record?) :
    (sharded.setShard key tables).contents = sharded.contents.set table key record? := by
  funext other otherKey
  unfold contents
  rw [shard_setShard]
  split
  next same =>
    have shared : sharded.shard otherKey = sharded.shard key := by simp [shard, same]
    rw [revised]
    simp only [Contents.set, shared]
  next different =>
    have otherRecord : ¬(other = table ∧ otherKey = key) := fun same =>
      different (congrArg sharded.index same.2)
    exact (if_neg otherRecord).symm

theorem answer_eq_reply (target : request.target? = some (table, key)) :
    (sharded.answer request).1 = request.reply (sharded.contents table key) := by
  have delegated : ((sharded.shard key).answer request).1 =
      request.reply (sharded.contents table key) := Tables.answer_eq_reply target
  cases request with
  | scan => cases target
  | read | update | insert | delete =>
      cases target
      exact delegated

theorem contents_answer (target : request.target? = some (table, key)) :
    (sharded.answer request).2.contents =
      sharded.contents.set table key (request.revise (sharded.contents table key)) := by
  have delegated : (sharded.delegate key request).2.contents =
      sharded.contents.set table key (request.revise (sharded.contents table key)) :=
    contents_setShard _ (Tables.contents_answer target)
  cases request with
  | scan => cases target
  | read =>
      cases target
      exact (sharded.contents.set_self table key).symm
  | update | insert | delete =>
      cases target
      exact delegated

end Sharded
end StoreBench
