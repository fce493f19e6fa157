import StoreBench.Store.Registry

namespace StoreBench

/-! Which records a store holds, and what it answers when only records that it holds are
asked for. Nothing but a deletion removes a record. -/

/-- A request that deletes nothing, and asks only for a record that is there. -/
def Request.Served (held : String → String → Prop) : Request → Prop
  | .read table key _ | .update table key _ | .scan table key _ _ => held table key
  | .insert .. => True
  | .delete .. => False

theorem Request.Served.mono {held more : String → String → Prop} {request : Request}
    (served : request.Served held) (grown : ∀ table key, held table key → more table key) :
    request.Served more := by
  cases request with
  | read table key fields => exact grown table key served
  | scan table key count fields => exact grown table key served
  | update table key values => exact grown table key served
  | insert table key values => trivial
  | delete table key => exact served

/-! ## Tables -/

namespace Tables

variable {tables : Tables} {request : Request} {table key : String}

def Has (tables : Tables) (table key : String) : Prop := (tables.record? table key).isSome

theorem has_put {fields : Fields} {other otherKey : String} :
    (tables.put table key fields).Has other otherKey ↔
      (other = table ∧ otherKey = key) ∨ tables.Has other otherKey := by
  unfold Has
  rw [record?_put]
  split <;> simp_all

theorem Has.exists_record (has : tables.Has table key) :
    ∃ fields, tables.record? table key = some fields :=
  Option.isSome_iff_exists.mp has

theorem Has.exists_table (has : tables.Has table key) :
    ∃ records, tables[table]? = some records := by
  rcases has.exists_record with ⟨fields, found⟩
  rcases Option.bind_eq_some_iff.mp found with ⟨records, tableFound, _⟩
  exact ⟨records, tableFound⟩

theorem answer_status (served : request.Served tables.Has) :
    (tables.answer request).1.status = .ok := by
  cases request with
  | read table key fields =>
      rcases Has.exists_record served with ⟨record, found⟩
      simp [answer, read, found]
  | scan table start count fields =>
      rcases Has.exists_table served with ⟨records, found⟩
      simp [answer, scan, found]
  | update table key values =>
      rcases Has.exists_record served with ⟨record, found⟩
      simp [answer, update, found, Answer.only]
  | insert table key values => rfl
  | delete table key => cases served

theorem Has.answer (has : tables.Has table key) (served : request.Served tables.Has) :
    (tables.answer request).2.Has table key := by
  cases request with
  | read other otherKey fields => exact has
  | scan other start count fields => exact has
  | update other otherKey values =>
      rcases Has.exists_record served with ⟨record, found⟩
      simp only [Tables.answer, update, found]
      exact has_put.mpr (.inr has)
  | insert other otherKey values => exact has_put.mpr (.inr has)
  | delete other otherKey => cases served

theorem has_insert (values : Record) :
    (tables.answer (.insert table key values)).2.Has table key :=
  has_put.mpr (.inl ⟨rfl, rfl⟩)

end Tables

/-! ## Shards -/

namespace Sharded

variable {sharded : Sharded} {request : Request} {table key : String}

def Has (sharded : Sharded) (table key : String) : Prop := (sharded.shard key).Has table key

theorem shard_setShard (sharded : Sharded) (key other : String) (tables : Tables) :
    (sharded.setShard key tables).shard other =
      if sharded.index other = sharded.index key then tables else sharded.shard other := by
  simp [shard, setShard, index, Array.getElem_set, eq_comm]

theorem Has.setShard {other otherKey : String} {tables : Tables}
    (has : sharded.Has other otherKey)
    (grown : (sharded.shard key).Has other otherKey → tables.Has other otherKey) :
    (sharded.setShard key tables).Has other otherKey := by
  unfold Has at has ⊢
  rw [shard_setShard]
  split
  next same =>
      have shared : sharded.shard otherKey = sharded.shard key := by simp [shard, same]
      exact grown (shared ▸ has)
  next => exact has

theorem Has.delegate {other otherKey : String} (has : sharded.Has other otherKey)
    (served : request.Served (sharded.shard key).Has) :
    (sharded.delegate key request).2.Has other otherKey :=
  has.setShard fun inside => inside.answer served

theorem Has.answer {other otherKey : String} (has : sharded.Has other otherKey)
    (served : request.Served sharded.Has) : (sharded.answer request).2.Has other otherKey := by
  cases request with
  | read table key fields => exact has
  | scan table start count fields => exact has
  | update table key values => exact has.delegate served
  | insert table key values => exact has.delegate trivial
  | delete table key => cases served

theorem has_insert (values : Record) :
    (sharded.answer (.insert table key values)).2.Has table key := by
  unfold Has
  rw [answer, delegate, shard_setShard, if_pos rfl]
  exact Tables.has_insert values

end Sharded

/-! ## Stores -/

namespace Store

variable {store : Store} {request : Request} {table key : String}

def Has : Store → String → String → Prop
  | .null, _, _ | .logging, _, _ => False
  | .ordered tables, table, key => tables.Has table key
  | .sharded shards, table, key => shards.Has table key

def Keeping : Store → Prop
  | .null | .logging => False
  | .ordered _ | .sharded _ => True

def scanOutcome : Store → Status
  | .sharded _ => .notImplemented
  | _ => .ok

def outcome (store : Store) : Request → Status
  | .scan .. => store.scanOutcome
  | _ => .ok

theorem outcome_congr {other : Store} (same : other.scanOutcome = store.scanOutcome)
    (request : Request) : other.outcome request = store.outcome request := by
  cases request <;> first | rfl | exact same

theorem answer_status (served : request.Served store.Has) :
    (store.answer request).1.status = store.outcome request := by
  cases store with
  | null | logging => cases request <;> rfl
  | ordered tables =>
      rw [show (Store.ordered tables).outcome request = .ok by cases request <;> rfl]
      exact Tables.answer_status served
  | sharded shards =>
      cases request with
      | scan table start count fields => rfl
      | read table key fields => exact Tables.answer_status served
      | update table key values =>
          have inside : (Request.update table key values).Served (shards.shard key).Has := served
          exact Tables.answer_status inside
      | insert table key values => rfl
      | delete table key => cases served

theorem Has.answer (has : store.Has table key) (served : request.Served store.Has) :
    (store.answer request).2.Has table key := by
  cases store with
  | null | logging => cases has
  | ordered tables => exact Tables.Has.answer has served
  | sharded shards => exact Sharded.Has.answer has served

theorem Keeping.has_insert (keeping : store.Keeping) (values : Record) :
    (store.answer (.insert table key values)).2.Has table key := by
  cases store with
  | null | logging => cases keeping
  | ordered tables => exact Tables.has_insert values
  | sharded shards => exact Sharded.has_insert values

theorem Keeping.answer (keeping : store.Keeping) (request : Request) :
    (store.answer request).2.Keeping := by
  cases store with
  | null | logging => cases keeping
  | ordered tables => trivial
  | sharded shards => trivial

theorem scanOutcome_answer (store : Store) (request : Request) :
    (store.answer request).2.scanOutcome = store.scanOutcome := by
  cases store <;> rfl

end Store
end StoreBench
