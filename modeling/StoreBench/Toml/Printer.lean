import StoreBench.Crash
import StoreBench.Decimal.Shortest
import StoreBench.Toml.Moment
import StoreBench.Toml.Value

namespace StoreBench.Toml

/-! Writing values on one line. -/

inductive Quotes where
  | basic
  | literal
  | longBasic
  | longLiteral
  deriving DecidableEq, Repr

def longestRun (wanted : Char) : List Char → Nat × Nat
  | [] => (0, 0)
  | next :: rest =>
      let (longest, leading) := longestRun wanted rest
      if next == wanted then (max longest (leading + 1), leading + 1) else (longest, 0)

def needsEscape (character : Char) : Bool :=
  (character.toNat < 0x20 && character != '\t' && character != '\n') || character == '\x7f'

/-- The plainest way that can hold a text: double quotes if nothing in it has to be
escaped, then single quotes, then either of them three times. Where all of them fail,
escapes are written between double quotes. -/
def quotesFor (characters : List Char) : Quotes :=
  let escapes := characters.any needsEscape
  let backslashes := characters.contains '\\'
  let lines := characters.contains '\n'
  let doubles := (longestRun '"' characters).1
  let singles := (longestRun '\'' characters).1
  if !escapes && !backslashes && doubles = 0 && !lines then .basic
  else if !escapes && singles = 0 && !lines then .literal
  else if !escapes && !backslashes && doubles ≤ 2 then .longBasic
  else if !escapes && singles ≤ 2 then .longLiteral
  else if lines then .longBasic
  else .basic

def basicChar (long : Bool) (character : Char) : List Char :=
  match character with
  | '\x08' => ['\\', 'b']
  | '\t' => ['\\', 't']
  | '\n' => if long then ['\n'] else ['\\', 'n']
  | '\x0c' => ['\\', 'f']
  | '\r' => ['\\', 'r']
  | '"' => if long then ['"'] else ['\\', '"']
  | '\\' => ['\\', '\\']
  | _ =>
      if needsEscape character then
        let digits := (Nat.toDigits 16 character.toNat).map Char.toUpper
        '\\' :: 'u' :: (List.replicate (4 - digits.length) '0' ++ digits)
      else [character]

/-- Characters between double quotes written three times: a third quote in a row is
escaped. -/
def longBasicChars : Nat → List Char → List Char
  | _, [] => []
  | run, '"' :: rest =>
      if run = 2 then '\\' :: '"' :: longBasicChars 0 rest
      else '"' :: longBasicChars (run + 1) rest
  | _, next :: rest => basicChar true next ++ longBasicChars 0 rest

def quoted (content : String) : String :=
  let characters := content.toList
  let opening := if characters.contains '\n' then ['\n'] else []
  String.ofList <| match quotesFor characters with
    | .basic => '"' :: (characters.flatMap (basicChar false) ++ ['"'])
    | .literal => '\'' :: (characters ++ ['\''])
    | .longBasic =>
        ['"', '"', '"'] ++ opening ++ longBasicChars 0 characters ++ ['"', '"', '"']
    | .longLiteral => ['\'', '\'', '\''] ++ opening ++ characters ++ ['\'', '\'', '\'']

def isBareKeyChar (character : Char) : Bool :=
  character.isAlphanum || character == '_' || character == '-'

def keyText (key : String) : String :=
  let characters := key.toList
  if !characters.isEmpty && characters.all isBareKeyChar then key
  else match quotesFor characters with
    | .literal => quoted key
    | _ => String.ofList ('"' :: (characters.flatMap (basicChar false) ++ ['"']))

def floatText (number : Float) : String :=
  if number.isNaN then "nan" else Decimal.withPoint number

/-- A text inside an array or a table. Before it is written, the quotes in a row are
counted, and the count must stay below 256. -/
def innerText (content : String) : Except Crash String :=
  let characters := content.toList
  let longest (quote : Char) : Nat := (longestRun quote characters).1
  if longest '"' < 256 && longest '\'' < 256 then .ok (quoted content)
  else .error .additionOverflow

mutual

def Value.renderInner : Value → Except Crash String
  | .text content => innerText content
  | .integer number => .ok (toString number.toInt)
  | .float number => .ok (floatText number)
  | .boolean flag => .ok (toString flag)
  | .dateTime moment => .ok moment.text
  | .array items => do return "[" ++ ", ".intercalate (← renderItems items) ++ "]"
  | .table [] => .ok "\x7b\x7d"
  | .table entries => do
      return "\x7b " ++ ", ".intercalate (← renderEntries entries) ++ " \x7d"

def renderItems : List Value → Except Crash (List String)
  | [] => .ok []
  | item :: rest => do
      let text ← item.renderInner
      return text :: (← renderItems rest)

def renderEntries : List (String × Value) → Except Crash (List String)
  | [] => .ok []
  | (key, value) :: rest => do
      let text ← value.renderInner
      return (keyText key ++ " = " ++ text) :: (← renderEntries rest)

end

/-- A value by itself. A text is shown as it is. A date or time is shown as the table
that settings make of it. -/
def Value.render : Value → Except Crash String
  | .text content => .ok content
  | .dateTime moment => (Value.table [(momentKey, .text moment.text)]).renderInner
  | value => value.renderInner

end StoreBench.Toml
