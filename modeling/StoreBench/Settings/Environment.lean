import StoreBench.Decimal.Read
import StoreBench.Settings.Quoted
import StoreBench.Settings.Setting
import StoreBench.Text.Blank
import StoreBench.Text.Pieces

namespace StoreBench

/-! Settings that the environment gives. A variable whose name begins with `YCSB_`
names a setting; two underscores lead into a table. Its value is read as the plainest
kind of value that fits, and a value that fits no kind is taken as a text. -/

abbrev Environment := List (String × String)

namespace Environment

/-- Variables assigned one after the other. One that exists keeps its position. -/
def ofList (assignments : List (String × String)) : Environment :=
  assignments.foldl (fun environment (name, value) => Entries.assign name value environment) []

/-! ## Names -/

def namePrefix : List Char := "YCSB_".toList

def joinPoints : List Char → List Char
  | '_' :: '_' :: rest => '.' :: joinPoints rest
  | character :: rest => character :: joinPoints rest
  | [] => []

/-- The keys that a variable's name leads through, in lower case. Blanks around the name
and after its opening do not count. A name that leaves a key empty names no setting. -/
def path? (name : String) : Option (List String) :=
  let (opening, rest) := (trimChars name.toList).splitAt namePrefix.length
  if opening.map Char.toUpper = namePrefix then
    let keys := pieces '.' ((trimChars (joinPoints rest)).map Char.toLower)
    if keys.contains [] then none else some (keys.map String.ofList)
  else none

example : path? " ycsb_Workload__RecordCount" = some ["workload", "recordcount"] := by
  decide +kernel

example : path? "YCSB_WORKLOAD__" = none := by decide +kernel

/-! ## Values -/

abbrev ValueReader := StateT (List Char) (OptionT (Except Crash))

instance : MonadLift Reader ValueReader := ⟨fun reader input => OptionT.mk (.ok (reader input))⟩

def isSeparator (character : Char) : Bool := [',', '\x7b', '\x7d', '[', ']'].contains character

def skipBlanks : Reader Unit := do let _ ← Reader.takeWhile isPlainBlank

/-- A text without quotes: a real number if it has a point and reads as one, else a
whole number if it reads as one, else a text. -/
def bare (characters : List Char) : Setting :=
  let characters := trimChars characters
  let real? := if characters.contains '.' then Decimal.readFloat? characters else none
  match real?, Decimal.readNatural characters, Decimal.readInteger characters with
  | some number, _, _ => .float .environment number
  | none, .ok number, _ => .unsigned .environment number.toNat
  | none, .error _, .ok number => .signed .environment number.toInt
  | none, .error _, .error _ => .text .environment (String.ofList characters)

def quotedContent : Reader (List Char) := do
  let _ ← Reader.char '"'
  Quoted.untilQuote?

def quotedText : ValueReader String := do
  match ← (Quoted.unescape (← quotedContent) : Except Crash (Option (List Char))) with
  | some characters => return String.ofList characters
  | none => failure

def entryName : ValueReader String := do
  skipBlanks
  let name ← match ← Reader.peek with
    | some '"' => quotedText
    | _ => String.ofList <$> Reader.takeSome Toml.isBareKeyChar
  skipBlanks
  return name

/-- Items up to a closing character, with commas between them. A comma may also stand
right before the closing character. -/
def itemsUntil {α : Type} (closing : Char) (item : ValueReader α) :
    Nat → ValueReader (List α)
  | 0 => failure
  | limit + 1 => do
      if (← Reader.optional (Reader.char closing)).isSome then return []
      let first ← item
      if (← Reader.optional (Reader.char closing)).isSome then return [first]
      let _ ← Reader.char ','
      return first :: (← itemsUntil closing item limit)

def valueReader (limit : Nat) : Nat → ValueReader Setting
  | 0 => failure
  | depth + 1 => do
      skipBlanks
      let value ← content (valueReader limit depth)
      skipBlanks
      return value
where
  entry (inner : ValueReader Setting) : ValueReader (String × Setting) := do
    let name ← entryName
    let _ ← Reader.char '='
    return (name, ← inner)
  truth : Reader Setting :=
    (do Reader.literal "true".toList; return .boolean .environment true) <|>
    (do Reader.literal "false".toList; return .boolean .environment false)
  content (inner : ValueReader Setting) : ValueReader Setting := do
    if let some flag ← Reader.optional truth then return flag
    match ← Reader.peek with
    | some '\x7b' =>
        let _ ← Reader.char '\x7b'
        return .map .environment (Entries.ofList (← itemsUntil '\x7d' (entry inner) limit))
    | some '[' =>
        let _ ← Reader.char '['
        return .sequence .environment (← itemsUntil ']' inner limit)
    | some '"' => return .text .environment (← quotedText)
    | some '\'' =>
        let _ ← Reader.char '\''
        let character ← Reader.satisfy fun _ => true
        let _ ← Reader.char '\''
        return .text .environment (String.ofList [character])
    | _ => return bare (← Reader.takeWhile fun character => !isSeparator character)

def setting (value : String) : Except Crash Setting := do
  let limit := value.length + 1
  match ← (valueReader limit limit value.toList).run with
  | some (setting, []) => return setting
  | _ => return .text .environment value

def foundIn (value : String) : Option String :=
  (setting value).toOption.map fun setting => setting.found.inSettings

example : foundIn " 76 " = some "unsigned int `76`" := by decide +kernel

example : foundIn "[1, x]" = some "sequence" := by decide +kernel

example : foundIn "a, b" = some "string \"a, b\"" := by decide +kernel

/-! ## All settings -/

def nest (path : List String) (setting : Setting) : Setting :=
  path.foldr (fun key inner => .map .environment [(key, inner)]) setting

def settings (environment : Environment) : Except Crash (Entries Setting) :=
  environment.foldlM (fun lower (name, value) => match path? name with
    | some (key :: path) => do
        return Setting.overlayEntries lower [(key, nest path (← setting value))]
    | _ => return lower) []

end Environment
end StoreBench
