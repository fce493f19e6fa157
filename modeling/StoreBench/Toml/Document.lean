import StoreBench.Toml.Moment
import StoreBench.Toml.Syntax

namespace StoreBench.Toml

/-! Documents: lines that name a table or give a key its value, put together to one
table. A table may be opened by a header once. Tables that a longer header or a dotted
key implies are open to more keys of the same kind only. -/

inductive TableForm where
  | header
  | implied
  | dotted
  deriving DecidableEq, Repr

inductive Node where
  | value (held : Value)
  | table (form : TableForm) (entries : List (String × Node))
  | tables (closed : List (List (String × Node))) (current : List (String × Node))

abbrev Nodes := List (String × Node)

/-! ## Building -/

namespace Node

/-- Change the table at the end of a path. Tables on the way that do not exist are
made, by a dotted key or by a header. A dotted key must not enter a table that has a
header of its own. -/
def change (byDots : Bool)
    (update : TableForm → Nodes → Option Nodes) :
    List String → TableForm → Nodes → Option Nodes
  | [], form, entries => update form entries
  | key :: path, _, entries => do
      match entries.lookup key with
      | none =>
          let form := if byDots then .dotted else .implied
          let inner ← change byDots update path form []
          return Entries.assign key (.table form inner) entries
      | some (.value _) => failure
      | some (.table form inner) =>
          if byDots && form == .header then failure
          let inner ← change byDots update path form inner
          return Entries.assign key (.table form inner) entries
      | some (.tables closed current) =>
          let current ← change byDots update path .header current
          return Entries.assign key (.tables closed current) entries

/-- Give a dotted key its value, in a table where it has none yet. All tables that
the key goes through must be made by dotted keys. -/
def assign (path : List String) (key : String) (value : Value)
    (entries : Nodes) : Option Nodes :=
  change true (fun form inner =>
    if (form == .dotted) == path.isEmpty then none
    else match inner.lookup key with
      | some _ => none
      | none => some (Entries.assign key (.value value) inner)) path .header entries

/-- Open a table by its header. A table that was implied so far comes after the others from
now on. -/
def openTable (path : List String) (key : String) (entries : Nodes) :
    Option Nodes :=
  change false (fun _ inner =>
    match inner.lookup key with
    | none => some (Entries.assign key (.table .header []) inner)
    | some (.table .implied kept) =>
        some (Entries.assignLast key (.table .header kept) inner)
    | some _ => none) path .header entries

def openNext (path : List String) (key : String) (entries : Nodes) :
    Option Nodes :=
  change false (fun _ inner =>
    match inner.lookup key with
    | none => some (Entries.assign key (.tables [] []) inner)
    | some (.tables closed current) =>
        some (Entries.assign key (.tables (closed ++ [current]) []) inner)
    | some _ => none) path .header entries

mutual

def toValue : Node → Value
  | .value held => held
  | .table _ entries => .table (entryValues entries)
  | .tables closed current => .array (tableValues closed ++ [.table (entryValues current)])

def entryValues : List (String × Node) → List (String × Value)
  | [] => []
  | (key, node) :: rest => (key, node.toValue) :: entryValues rest

def tableValues : List (List (String × Node)) → List Value
  | [] => []
  | entries :: rest => .table (entryValues entries) :: tableValues rest

end

end Node

/-! ## Values -/

def arrayReader (item : Reader Value) : Reader Value := do
  let _ ← Reader.char '['
  let items ← Reader.separated (Reader.char ',') (do gap; let value ← item; gap; return value)
  if !items.isEmpty then let _ ← Reader.optional (Reader.char ',')
  gap
  let _ ← Reader.char ']'
  return .array items

def pairReader (item : Reader Value) : Reader (List String × Value) := do
  let path ← dottedKey
  let _ ← Reader.char '='
  spaces
  return (path, ← item)

def inlineTableReader (item : Reader Value) : Reader Value := do
  let _ ← Reader.char '\x7b'
  let pairs ← Reader.separated (Reader.char ',') do
    let pair ← pairReader item
    spaces
    return pair
  spaces
  let _ ← Reader.char '\x7d'
  let entries : Option Nodes := pairs.foldlM (fun entries (path, value) =>
    Node.assign path.dropLast (path.getLast?.getD "") value entries) []
  match entries with
  | some entries => return .table (Node.entryValues entries)
  | none => failure

def valueReader : Nat → Reader Value
  | 0 => plainValue
  | depth + 1 =>
      plainValue <|> arrayReader (valueReader depth) <|> inlineTableReader (valueReader depth)

/-! ## Lines -/

inductive Line where
  | blank
  | header (path : List String)
  | nextHeader (path : List String)
  | pair (path : List String) (value : Value)

def lineContent : Reader Line :=
  (do
    Reader.literal ['[', '[']
    let path ← dottedKey
    Reader.literal [']', ']']
    return .nextHeader path) <|>
  (do
    let _ ← Reader.char '['
    let path ← dottedKey
    let _ ← Reader.char ']'
    return .header path) <|>
  (do
    let (path, value) ← pairReader (valueReader depthLimit)
    return .pair path value) <|>
  return .blank

def lineReader : Reader Line := do
  if (← Reader.peek).isNone then failure
  spaces
  let line ← lineContent
  spaces
  let _ ← Reader.optional comment
  lineEnd <|> Reader.finish
  return line

/-! ## Documents -/

structure Document where
  entries : Nodes
  header : List String

def Document.addLine (document : Document) : Line → Option Document
  | .blank => some document
  | .header path => do
      let entries ←
        Node.openTable path.dropLast (path.getLast?.getD "") document.entries
      return ⟨entries, path⟩
  | .nextHeader path => do
      let entries ← Node.openNext path.dropLast (path.getLast?.getD "") document.entries
      return ⟨entries, path⟩
  | .pair path value => do
      let entries ← Node.change false
        (fun _ inner => Node.assign path.dropLast (path.getLast?.getD "") value inner)
        document.header .header document.entries
      return { document with entries }

/-- The entries of a document, in all tables as it first names them. A byte order mark
in front is skipped. -/
def parse? (text : String) : Option (List (String × Value)) := do
  let text := if text.startsWith "\uFEFF" then (text.drop 1).toString else text
  let lines ← Reader.readAll? (Reader.manyAll lineReader) text
  let document ← lines.foldlM Document.addLine ⟨[], []⟩
  return Node.entryValues document.entries

/-! ## Tables -/

mutual

/-- A value with the entries of its tables in the order of their names. A table whose
first entry is under the key of moments has to be the moment that the entry gives. -/
def Value.settle : Value → Option Value
  | .array items => (settleItems items).map .array
  | .table [] => some (.table [])
  | .table ((key, value) :: rest) =>
      if key = momentKey then match value with
        | .text content => (DateTime.ofText content).toOption.map .dateTime
        | _ => none
      else do
        let value ← value.settle
        return .table (Entries.put key value (← settleEntries rest))
  | value => some value

def settleItems : List Value → Option (List Value)
  | [] => some []
  | item :: rest => do return (← item.settle) :: (← settleItems rest)

def settleEntries : List (String × Value) → Option Table
  | [] => some []
  | (key, value) :: rest => do
      let value ← value.settle
      return Entries.put key value (← settleEntries rest)

end

def read? (text : String) : Option Table := do settleEntries (← parse? text)

end StoreBench.Toml
