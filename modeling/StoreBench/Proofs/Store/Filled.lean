import Mathlib.Data.List.Induction
import StoreBench.Proofs.Store.Records

namespace StoreBench

/-! Tables that are filled by inserts. If nothing but inserts into one table has been asked for,
this table holds a record for each key that was inserted, and no other table has come into
being. -/

theorem size_eq_length {α : Type} {map : Std.TreeMap String α} {keys : List String}
    (distinct : keys.Nodup) (same : ∀ key, key ∈ map ↔ key ∈ keys) : map.size = keys.length := by
  have listed : map.keys.Perm keys :=
    (List.perm_ext_iff_of_nodup Std.TreeMap.nodup_keys distinct).mpr fun key =>
      Std.TreeMap.mem_keys.trans (same key)
  rw [← Std.TreeMap.length_keys, listed.length_eq]

/-! ## Fields -/

namespace Fields

theorem mem_overwrite (fields : Fields) (values : Record) (name : String) :
    name ∈ fields.overwrite values ↔ name ∈ fields ∨ name ∈ values.map Prod.fst := by
  induction values generalizing fields with
  | nil => simp [overwrite]
  | cons field rest induction =>
      refine (induction (fields.insert field.1 field.2)).trans ?_
      rw [Std.TreeMap.mem_insert, Std.LawfulEqCmp.compare_eq_iff_eq, List.map_cons, List.mem_cons,
        eq_comm, or_assoc, or_left_comm]

theorem mem_ofRecord {values : Record} {name : String} :
    name ∈ ofRecord values ↔ name ∈ values.map Prod.fst := by
  rw [ofRecord, mem_overwrite]
  exact or_iff_right Std.TreeMap.not_mem_emptyc

theorem size_ofRecord {values : Record} (distinct : (values.map Prod.fst).Nodup) :
    (ofRecord values).size = values.length := by
  rw [size_eq_length distinct fun _ => mem_ofRecord, List.length_map]

end Fields

/-! ## Tables -/

namespace Tables

def records (tables : Tables) (table : String) : Std.TreeMap String Fields :=
  tables[table]?.getD ∅

theorem getElem?_records (tables : Tables) (table key : String) :
    (tables.records table)[key]? = tables.record? table key := by
  cases found : tables[table]? <;> simp [records, record?, found]

theorem mem_records {tables : Tables} {table key : String} :
    key ∈ tables.records table ↔ tables.Has table key := by
  rw [Std.TreeMap.mem_iff_isSome_getElem?, getElem?_records]
  rfl

def after (requests : List Request) (tables : Tables) : Tables :=
  requests.foldl (fun tables request => (tables.answer request).2) tables

theorem after_append (first second : List Request) (tables : Tables) :
    after (first ++ second) tables = after second (after first tables) :=
  List.foldl_append

/-- What is in one table was inserted by one of some requests, and nothing is in other tables. -/
structure FilledBy (table : String) (requests : List Request) (tables : Tables) : Prop where
  has : ∀ key values, .insert table key values ∈ requests → tables.Has table key
  inserted : ∀ key fields, tables.record? table key = some fields →
    ∃ values, .insert table key values ∈ requests ∧ fields = .ofRecord values
  others : ∀ other, other ≠ table → tables[other]? = none

variable {table : String} {requests : List Request} {tables : Tables}

theorem FilledBy.insert (filled : tables.FilledBy table requests) (key : String)
    (values : Record) :
    (tables.answer (.insert table key values)).2.FilledBy table
      (requests ++ [.insert table key values]) where
  has other otherValues member := by
    refine has_put.mpr ?_
    rcases List.mem_append.mp member with member | here
    · exact .inr (filled.has other otherValues member)
    · cases List.mem_singleton.mp here
      exact .inl ⟨rfl, rfl⟩
  inserted other fields found := by
    have put := record?_put tables table key table other (.ofRecord values)
    by_cases same : other = key
    · subst same
      rw [if_pos ⟨rfl, rfl⟩] at put
      cases found.symm.trans put
      exact ⟨values, by simp, rfl⟩
    · rw [if_neg fun both => same both.2] at put
      rcases filled.inserted other fields (put.symm.trans found) with ⟨earlier, member, equal⟩
      exact ⟨earlier, List.mem_append_left _ member, equal⟩
  others other different := by
    have absent := filled.others other different
    simp [answer, Tables.insert, put, Std.TreeMap.getElem?_insert, Ne.symm different, absent]

theorem filledBy_after
    (inserts : ∀ request ∈ requests, ∃ key values, request = .insert table key values) :
    (after requests ∅).FilledBy table requests := by
  induction requests using List.reverseRecOn with
  | nil => exact ⟨nofun, by simp [after, record?], fun _ _ => by simp [after]⟩
  | append_singleton requests request induction =>
      have filled := induction fun other member => inserts other (List.mem_append_left _ member)
      rcases inserts request (by simp) with ⟨key, values, rfl⟩
      rw [after_append]
      exact filled.insert key values

theorem FilledBy.mem_records_iff (filled : tables.FilledBy table requests) {key : String} :
    key ∈ tables.records table ↔ ∃ values, .insert table key values ∈ requests := by
  rw [mem_records]
  constructor
  · intro has
    rcases has.exists_record with ⟨fields, found⟩
    rcases filled.inserted key fields found with ⟨values, member, _⟩
    exact ⟨values, member⟩
  · rintro ⟨values, member⟩
    exact filled.has key values member

end Tables

end StoreBench
