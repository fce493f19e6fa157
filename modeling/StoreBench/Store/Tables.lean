import StoreBench.Store.Fields

namespace StoreBench

/-! Records in tables, by key. A table comes into being with its first record and
stays when its last one is removed. Keys are in the order of their code points. -/

abbrev Tables := Std.TreeMap String (Std.TreeMap String Fields)

namespace Tables

def record? (tables : Tables) (table key : String) : Option Fields :=
  tables[table]?.bind fun records => records[key]?

def put (tables : Tables) (table key : String) (fields : Fields) : Tables :=
  tables.insert table ((tables[table]?.getD ∅).insert key fields)

def remove (tables : Tables) (table key : String) : Tables :=
  match tables[table]? with
  | some records => tables.insert table (records.erase key)
  | none => tables

theorem record?_put (tables : Tables) (table key other otherKey : String) (fields : Fields) :
    (tables.put table key fields).record? other otherKey =
      if other = table ∧ otherKey = key then some fields else tables.record? other otherKey := by
  by_cases sameTable : other = table
  · subst sameTable
    by_cases sameKey : otherKey = key
    · subst sameKey
      simp [record?, put]
    · have different : ¬key = otherKey := fun equal => sameKey equal.symm
      cases found : tables[other]? <;>
        simp [record?, put, found, sameKey, different, Std.TreeMap.getElem?_insert]
  · have different : ¬table = other := fun equal => sameTable equal.symm
    simp [record?, put, sameTable, different, Std.TreeMap.getElem?_insert]

theorem record?_remove (tables : Tables) (table key other otherKey : String) :
    (tables.remove table key).record? other otherKey =
      if other = table ∧ otherKey = key then none else tables.record? other otherKey := by
  cases found : tables[table]? with
  | none =>
      by_cases same : other = table ∧ otherKey = key
      · simp [record?, remove, found, same]
      · simp [record?, remove, found, same]
  | some records =>
      by_cases sameTable : other = table
      · subst sameTable
        by_cases sameKey : otherKey = key
        · subst sameKey
          simp [record?, remove, found]
        · have different : ¬key = otherKey := fun equal => sameKey equal.symm
          simp [record?, remove, found, sameKey, different, Std.TreeMap.getElem?_erase]
      · have different : ¬table = other := fun equal => sameTable equal.symm
        simp [record?, remove, found, sameTable, different, Std.TreeMap.getElem?_insert]

/-! ## Answers -/

def recordsFrom (records : Std.TreeMap String Fields) (start : String) :
    List (String × Fields) :=
  records.toList.dropWhile fun (key, _) => decide (key < start)

def read (tables : Tables) (table key : String) (wanted : List String) : Answer :=
  match tables.record? table key with
  | some fields => ⟨.ok, [fields.project wanted]⟩
  | none => .only .notFound

/-- A scan finds the table or nothing at all; a table without records is found. -/
def scan (tables : Tables) (table start : String) (count : Nat) (wanted : List String) :
    Answer :=
  match tables[table]? with
  | some records =>
      ⟨.ok, ((recordsFrom records start).take count).map fun (_, fields) =>
        fields.project wanted⟩
  | none => .only .notFound

def update (tables : Tables) (table key : String) (values : Record) : Answer × Tables :=
  match tables.record? table key with
  | some fields => (.only .ok, tables.put table key (fields.overwrite values))
  | none => (.only .notFound, tables)

def insert (tables : Tables) (table key : String) (values : Record) : Answer × Tables :=
  (.only .ok, tables.put table key (Fields.ofRecord values))

example : (insert ∅ "t" "k" [("a", "1"), ("a", "2")]).2.read "t" "k" [] =
    ⟨.ok, [[("a", "2")]]⟩ := by decide +kernel

def delete (tables : Tables) (table key : String) : Answer × Tables :=
  match tables.record? table key with
  | some _ => (.only .ok, tables.remove table key)
  | none => (.only .notFound, tables)

def answer (tables : Tables) : Request → Answer × Tables
  | .read table key fields => (tables.read table key fields, tables)
  | .scan table start count fields => (tables.scan table start count fields, tables)
  | .update table key values => tables.update table key values
  | .insert table key values => tables.insert table key values
  | .delete table key => tables.delete table key

end Tables
end StoreBench
