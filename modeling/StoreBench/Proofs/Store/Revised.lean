import StoreBench.Proofs.Store.Contents

namespace StoreBench

/-! What a request does to the contents of a store, of whatever kind. Every record is as before
the request, or the request is about this record and has revised it. -/

theorem Contents.set_cases (contents : Contents) (table key other otherKey : String)
    (record? : Option Fields) :
    contents.set table key record? other otherKey = contents other otherKey ∨
      (other = table ∧ otherKey = key) ∧
        contents.set table key record? other otherKey = record? := by
  by_cases same : other = table ∧ otherKey = key
  · exact .inr ⟨same, if_pos same⟩
  · exact .inl (if_neg same)

namespace Store

variable {store : Store} {request : Request} {table key : String}

def contents : Store → Contents
  | .null | .logging => fun _ _ => none
  | .ordered tables => tables.contents
  | .sharded shards => shards.contents

theorem has_iff : store.Has table key ↔ (store.contents table key).isSome := by
  cases store with
  | null | logging => simp [Has, contents]
  | ordered | sharded => exact Iff.rfl

theorem contents_ordered_empty (table key : String) :
    (Store.ordered ∅).contents table key = none := by
  simp [contents, Tables.contents, Tables.record?]

theorem contents_sharded_make (hash : String → UInt64) (count : Nat) (positive : 0 < count)
    (table key : String) :
    (Store.sharded (.make hash count positive)).contents table key = none := by
  simp [contents, Sharded.contents, Sharded.make, Sharded.shard, Tables.contents, Tables.record?]

theorem not_has_ordered_empty (table key : String) : ¬(Store.ordered ∅).Has table key := by
  rw [has_iff, contents_ordered_empty]
  exact Bool.false_ne_true

theorem contents_scan (store : Store) (table start : String) (count : Nat)
    (wanted : List String) :
    (store.answer (.scan table start count wanted)).2.contents = store.contents := by
  cases store <;> rfl

theorem Keeping.contents_answer (keeping : store.Keeping)
    (target : request.target? = some (table, key)) :
    (store.answer request).2.contents =
      store.contents.set table key (request.revise (store.contents table key)) := by
  cases store with
  | null | logging => cases keeping
  | ordered tables => exact Tables.contents_answer target
  | sharded shards => exact Sharded.contents_answer target

theorem Keeping.answer_eq_reply (keeping : store.Keeping)
    (target : request.target? = some (table, key)) :
    (store.answer request).1 = request.reply (store.contents table key) := by
  cases store with
  | null | logging => cases keeping
  | ordered tables => exact Tables.answer_eq_reply target
  | sharded shards => exact Sharded.answer_eq_reply target

theorem contents_answer_cases (store : Store) (request : Request) (table key : String) :
    (store.answer request).2.contents table key = store.contents table key ∨
      request.target? = some (table, key) ∧
        (store.answer request).2.contents table key =
          request.revise (store.contents table key) := by
  by_cases keeping : store.Keeping
  · cases target : request.target? with
    | none =>
        cases request with
        | scan => exact .inl (congrFun₂ (contents_scan ..) table key)
        | read | update | insert | delete => cases target
    | some other =>
        rcases other with ⟨other, otherKey⟩
        rw [keeping.contents_answer target]
        rcases store.contents.set_cases other otherKey table key _ with same | ⟨⟨rfl, rfl⟩, revised⟩
        · exact .inl same
        · exact .inr ⟨rfl, revised⟩
  · cases store with
    | null | logging => exact .inl rfl
    | ordered | sharded => exact absurd trivial keeping

end Store
end StoreBench
