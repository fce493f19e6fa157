import StoreBench.Decimal.Shortest
import StoreBench.Text.Escaped
import StoreBench.Toml.Moment

namespace StoreBench

/-! What is wrong with a setting: something of one kind was found where another
kind was wanted. Where the settings are put together, and where a store reads its
own options, the same findings are worded differently. -/

inductive Found where
  | boolean (flag : Bool)
  | signed (number : Int)
  | unsigned (number : Nat)
  | float (number : Float)
  | text (content : String)
  | sequence
  | map

namespace Found

def inSettings : Found → String
  | .boolean flag => "bool " ++ toString flag
  | .signed number => "signed int `" ++ toString number ++ "`"
  | .unsigned number => "unsigned int `" ++ toString number ++ "`"
  | .float number => "float `" ++ Decimal.plain number ++ "`"
  | .text content => "string " ++ escaped content
  | .sequence => "sequence"
  | .map => "map"

def inOptions : Found → String
  | .boolean flag => "boolean `" ++ toString flag ++ "`"
  | .signed number => "integer `" ++ toString number ++ "`"
  | .unsigned number => "integer `" ++ toString number ++ "`"
  | .float number => "floating point `" ++ Decimal.withPoint number ++ "`"
  | .text content => "string " ++ escaped content
  | .sequence => "sequence"
  | .map => "map"

end Found

inductive Origin where
  | document
  | environment
  deriving DecidableEq, Repr

structure Place where
  origin : Origin
  path : List String

/-- The words that name a place. A document's settings all belong to the default
profile, and the environment's are named in capitals. -/
def Place.text (place : Place) : String :=
  let key := match place.origin with
    | .document => ".".intercalate ("default" :: place.path)
    | .environment => (".".intercalate place.path).toUpper
  let named := if place.path.isEmpty then "" else " for key " ++ escaped key
  named ++ match place.origin with
    | .document => " in TOML source string"
    | .environment => " in `YCSB_` environment variable(s)"

inductive SettingsCause where
  | wrongType (found : Found) (wanted : String)
  | wrongValue (found : Found) (wanted : String)
  | wrongLength (length : Nat) (wanted : String)
  | missingField (name : String)
  | beyondInteger
  | invalidMoment (fault : Toml.MomentFault)
  | malformed

def SettingsCause.message : SettingsCause → String
  | .wrongType found wanted =>
      "invalid type: found " ++ found.inSettings ++ ", expected " ++ wanted
  | .wrongValue found wanted =>
      "invalid value " ++ found.inSettings ++ ", expected " ++ wanted
  | .wrongLength length wanted =>
      "invalid length " ++ toString length ++ ", expected " ++ wanted
  | .missingField name => "missing field `" ++ name ++ "`"
  | .beyondInteger => "u64 value was too large"
  | .invalidMoment fault => fault.message
  | .malformed => "TOML parse error"

structure SettingsFault where
  cause : SettingsCause
  place? : Option Place

def SettingsFault.placed (path : List String) (origin : Origin) (cause : SettingsCause) :
    SettingsFault :=
  ⟨cause, some ⟨origin, path⟩⟩

def SettingsFault.message (fault : SettingsFault) : String :=
  fault.cause.message ++ (fault.place?.map Place.text).getD ""

/-! ## Options of a store -/

inductive OptionFault where
  | missingField (name : String)
  | wrongType (name : String) (found : Found) (wanted : String)
  | wrongValue (name : String) (found : Found) (wanted : String)

def OptionFault.message : OptionFault → String
  | .missingField name => "missing field `" ++ name ++ "`"
  | .wrongType name found wanted =>
      "invalid type: " ++ found.inOptions ++ ", expected " ++ wanted ++
        "\nin `" ++ name ++ "`"
  | .wrongValue name found wanted =>
      "invalid value: " ++ found.inOptions ++ ", expected " ++ wanted ++
        "\nin `" ++ name ++ "`"

end StoreBench
