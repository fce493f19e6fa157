import StoreBench.Settings.Fault
import StoreBench.Toml.Document

namespace StoreBench

/-! Settings are values that remember where they come from. A document and the
environment both give settings, and what the environment gives is laid over the
document: tables are joined name by name, and anything else is replaced. A date or time
is a table here, with one entry that holds its text. -/

inductive Setting where
  | boolean (origin : Origin) (flag : Bool)
  | signed (origin : Origin) (number : Int)
  /-- The environment gives whole numbers without a sign, which go up to `2 ^ 64`. -/
  | unsigned (origin : Origin) (number : Nat)
  | float (origin : Origin) (number : Float)
  | text (origin : Origin) (content : String)
  | sequence (origin : Origin) (items : List Setting)
  | map (origin : Origin) (entries : List (String × Setting))

namespace Setting

def origin : Setting → Origin
  | .boolean origin _ | .signed origin _ | .unsigned origin _ | .float origin _
  | .text origin _ | .sequence origin _ | .map origin _ => origin

def found : Setting → Found
  | .boolean _ flag => .boolean flag
  | .signed _ number => .signed number
  | .unsigned _ number => .unsigned number
  | .float _ number => .float number
  | .text _ content => .text content
  | .sequence _ _ => .sequence
  | .map _ _ => .map

/-! ## Settings of a document

A table inside a document may say that it only wraps a setting. Then it stands for that
setting, and whatever else is in it does not count. A document must not say which setting
a table is. -/

def wrappedKey : String := "___figment_value_value"

def identityKey : String := "___figment_value_id"

def ofTable (entries : Entries Setting) : Option Setting :=
  if (Entries.find? entries identityKey).isSome then none
  else (Entries.find? entries wrappedKey).or (some (.map .document entries))

mutual

def ofValue : Toml.Value → Option Setting
  | .boolean flag => some (.boolean .document flag)
  | .integer number => some (.signed .document number.toInt)
  | .float number => some (.float .document number)
  | .text content => some (.text .document content)
  | .dateTime moment =>
      some (.map .document [(Toml.momentKey, .text .document moment.text)])
  | .array items => (ofItems items).map (.sequence .document)
  | .table entries => do ofTable (← ofEntries entries)

def ofItems : List Toml.Value → Option (List Setting)
  | [] => some []
  | item :: rest => do return (← ofValue item) :: (← ofItems rest)

def ofEntries : List (String × Toml.Value) → Option (Entries Setting)
  | [] => some []
  | (name, value) :: rest => do
      let setting ← ofValue value
      return Entries.put name setting (← ofEntries rest)

end

def ofDocument (text : String) : Except SettingsFault (Entries Setting) :=
  match Toml.parse? text >>= ofEntries with
  | some entries => .ok entries
  | none => .error ⟨.malformed, none⟩

/-! ## Laying settings over others -/

mutual

def overlay (lower : Setting) : Setting → Setting
  | .map origin upper => match lower with
      | .map _ entries => .map origin (overlayEntries entries upper)
      | _ => .map origin upper
  | upper => upper

def overlayEntries (lower : Entries Setting) :
    List (String × Setting) → Entries Setting
  | [] => lower
  | (name, upper) :: rest =>
      let upper := match Entries.find? lower name with
        | some setting => overlay setting upper
        | none => upper
      overlayEntries (Entries.put name upper lower) rest

end

/-! ## Values of settings -/

def toMoment (path : List String) (setting : Setting) : Except SettingsFault Toml.DateTime :=
  match setting with
  | .text origin content => (Toml.DateTime.ofText content).mapError fun fault =>
      .placed path origin (.invalidMoment fault)
  | _ => .error (.placed path setting.origin
      (.wrongType setting.found "string containing a datetime"))

mutual

/-- The value of a setting at the end of a path. A table whose first entry is under the
key of moments is a moment. It may have other entries, unless it has to be `lone`. -/
def toValue (lone : Bool) (path : List String) : Setting → Except SettingsFault Toml.Value
  | .boolean _ flag => .ok (.boolean flag)
  | .signed _ number => .ok (.integer (Int64.ofInt number))
  | .unsigned origin number =>
      if number < UInt64.size / 2 then .ok (.integer (Int64.ofNat number))
      else .error (.placed path origin .beyondInteger)
  | .float _ number => .ok (.float number)
  | .text _ content => .ok (.text content)
  | .sequence _ items => (toItems lone path 0 items).map .array
  | .map _ [] => .ok (.table [])
  | .map origin ((name, setting) :: rest) =>
      if name = Toml.momentKey then do
        let moment ← toMoment (path ++ [name]) setting
        if lone && !rest.isEmpty then
          throw (.placed path origin (.wrongLength (rest.length + 1) "1 element in map"))
        return .dateTime moment
      else do
        let value ← toValue lone (path ++ [name]) setting
        let others ← toTable lone path rest
        return .table ((name, value) :: others)

def toItems (lone : Bool) (path : List String) : Nat → List Setting →
    Except SettingsFault (List Toml.Value)
  | _, [] => .ok []
  | index, item :: rest => do
      let value ← toValue lone (path ++ [toString index]) item
      let values ← toItems lone path (index + 1) rest
      return value :: values

def toTable (lone : Bool) (path : List String) : List (String × Setting) →
    Except SettingsFault Toml.Table
  | [] => .ok []
  | (name, setting) :: rest => do
      let value ← toValue lone (path ++ [name]) setting
      let others ← toTable lone path rest
      return (name, value) :: others

end

end Setting
end StoreBench
