import StoreBench.Config.Failure
import StoreBench.Settings.Setting
import StoreBench.Text.Blank
import StoreBench.Toml.Printer

namespace StoreBench

/-! Workload properties: a flat table that is read key by key. Values that come from
a document have types; values that come from the environment or the command line are
texts. So each getter also accepts a text that reads as what it gets. -/

structure Properties where
  table : Toml.Table

namespace Properties

open Toml (Value)

def empty : Properties := ⟨[]⟩

def ofDocument (text : String) : Except ConfigError Properties :=
  let table : Except SettingsFault Toml.Table := do
    Setting.toTable false [] (← Setting.ofDocument text)
  (table.map Properties.mk).mapError .settings

def set (properties : Properties) (key : String) (value : Value) : Properties :=
  ⟨Entries.put key value properties.table⟩

def contains (properties : Properties) (key : String) : Bool :=
  (Entries.find? properties.table key).isSome

def require (properties : Properties) (key : String) : Except ConfigError Value :=
  match Entries.find? properties.table key with
  | some value => .ok value
  | none => .error (.missingKey key)

def readAs {α : Type} (expected key : String) (read? : Value → Option α) (value : Value) :
    Except Failure α :=
  match read? value with
  | some result => .ok result
  | none => do
      let shown ← (value.render : Except Crash String)
      throw (.refused (.invalidValue key shown expected))

def textOf? : Value → Option String
  | .text content => some content
  | .integer number => some (toString number.toInt)
  | .float number => some (Toml.floatText number)
  | .boolean flag => some (toString flag)
  | _ => none

def integerOf? : Value → Option Int64
  | .integer number => some number
  | .text content => (Decimal.readInteger (trimChars content.toList)).toOption
  | _ => none

def floatOf? : Value → Option Float
  | .float number => some number
  | .integer number => some number.toFloat
  | .text content => Decimal.readFloat? (trimChars content.toList)
  | _ => none

def boolOf? : Value → Option Bool
  | .boolean flag => some flag
  | .text content => Decimal.readBool? (trimChars content.toList)
  | _ => none

def getText (properties : Properties) (key : String) : Except Failure String := do
  readAs "a string" key textOf? (← properties.require key)

def getInteger (properties : Properties) (key : String) : Except Failure Int64 := do
  readAs "an integer" key integerOf? (← properties.require key)

def getNatural (properties : Properties) (key : String) : Except Failure UInt64 := do
  let number ← properties.getInteger key
  if 0 ≤ number then return number.toUInt64
  else throw (.refused (.invalidValue key (toString number.toInt) "a non-negative integer"))

def getFloat (properties : Properties) (key : String) : Except Failure Float := do
  readAs "a number" key floatOf? (← properties.require key)

def getBool (properties : Properties) (key : String) : Except Failure Bool := do
  readAs "a boolean" key boolOf? (← properties.require key)

/-- What a getter gets, or a default where the key is absent. A value that is there
but cannot be read is never replaced. -/
def orDefault {α : Type} (get : Properties → String → Except Failure α)
    (properties : Properties) (key : String) (default : α) : Except Failure α :=
  if properties.contains key then get properties key else .ok default

end Properties
end StoreBench
