import StoreBench.Properties
import StoreBench.Store.Sharded

namespace StoreBench

/-! The stores that can be chosen by name. -/

inductive Store where
  | null
  | logging
  | ordered (tables : Tables)
  | sharded (sharded : Sharded)

namespace Store

def answer (store : Store) (request : Request) : Answer × Store :=
  match store with
  | .null | .logging => (.only .ok, store)
  | .ordered tables =>
      let (answer, tables) := tables.answer request
      (answer, .ordered tables)
  | .sharded shards =>
      let (answer, shards) := shards.answer request
      (answer, .sharded shards)

/-! ## The log of calls -/

def fieldsText (fields : List String) : String :=
  if fields.isEmpty then "<all fields>" else "[ " ++ " ".intercalate fields ++ " ]"

def valuesText (values : Record) : String :=
  "[ " ++ " ".intercalate (values.map fun (name, value) => name ++ "=" ++ value) ++ " ]"

def requestText : Request → String
  | .read table key fields =>
      " ".intercalate ["READ", table, key, fieldsText fields]
  | .scan table start count fields =>
      " ".intercalate ["SCAN", table, start, toString count, fieldsText fields]
  | .update table key values => " ".intercalate ["UPDATE", table, key, valuesText values]
  | .insert table key values => " ".intercalate ["INSERT", table, key, valuesText values]
  | .delete table key => " ".intercalate ["DELETE", table, key]

example : requestText (.scan "t" "k" 3 ["a", "b"]) = "SCAN t k 3 [ a b ]" := by decide +kernel

def log (store : Store) (call : Call) : List String :=
  match store, call with
  | .logging, .start => ["A new thread begins working"]
  | .logging, .exchange request _ => [requestText request]
  | _, _ => []

instance : Backend Store Unit where
  openHandle _ := ()
  answer request store _ :=
    let (answer, store) := store.answer request
    (answer, store, ())
  log := log

/-! ## The registry -/

inductive Kind where
  | logging
  | ordered
  | sharded
  | null
  deriving DecidableEq, Repr

def Kind.name : Kind → String
  | .logging => "basic"
  | .ordered => "btreemap"
  | .sharded => "hashmap"
  | .null => "null"

def kinds : List Kind := [.logging, .ordered, .sharded, .null]

def names : List String := kinds.map Kind.name

example : names = ["basic", "btreemap", "hashmap", "null"] := rfl

/-- The kind of a value, as a store's options report it. A date or time counts as its
text. -/
def foundIn : Toml.Value → Found
  | .text content => .text content
  | .integer number => .signed number.toInt
  | .float number => .float number
  | .boolean flag => .boolean flag
  | .dateTime moment => .text moment.text
  | .table _ => .map
  | .array _ => .sequence

def shardCount (options : Toml.Table) : Except OptionFault Nat :=
  match Entries.find? options "shards" with
  | none => .error (.missingField "shards")
  | some (.integer number) =>
      if 0 ≤ number then .ok number.toInt.toNat
      else .error (.wrongValue "shards" (.signed number.toInt) "usize")
  | some value => .error (.wrongType "shards" (foundIn value) "usize")

/-- An empty store of a kind. A shard takes up forty bytes at first. -/
def ofKind (kind : Kind) (options : Toml.Table) : Except Failure Store :=
  match kind with
  | .null => return .null
  | .logging => return .logging
  | .ordered => return .ordered ∅
  | .sharded => do
      let count ← (shardCount options).mapError fun fault =>
        Failure.refused (.storeOption kind.name fault)
      if positive : 0 < count then do
        checkCapacity 40 count
        return .sharded (Sharded.make hashText count positive)
      else throw (.refused (.invalidValue "shards" "0" "a positive integer"))

def ofName (name : String) (options : Toml.Table) : Except Failure Store :=
  match kinds.find? (·.name == name) with
  | some kind => ofKind kind options
  | none => .error (.refused (.unknownStore name))

end Store
end StoreBench
