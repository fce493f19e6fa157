import StoreBench.Text.Hexadecimal
import StoreBench.Toml.Printer

namespace StoreBench.Toml

/-! The parts of a document below the level of lines: blanks, texts, numbers and
keys. -/

/-! ## Blanks and line ends -/

def isSpace (character : Char) : Bool := character == ' ' || character == '\t'

def spaces : Reader Unit := do let _ ← Reader.takeWhile isSpace

def lineEnd : Reader Unit := do
  let _ ← Reader.optional (Reader.char '\r')
  let _ ← Reader.char '\n'

def isShown (character : Char) : Bool :=
  character == '\t' || (0x20 ≤ character.toNat && character != '\x7f')

def comment : Reader Unit := do
  let _ ← Reader.char '#'
  let _ ← Reader.takeWhile isShown

def gap : Reader Unit := do
  let _ ← Reader.manyAll
    ((do let _ ← Reader.takeSome isSpace) <|> lineEnd <|> (do comment; lineEnd))

/-! ## Texts -/

def codePoint (digits : Nat) : Reader Char := do
  let some character := hexChar? (← Reader.takeExactly isHexDigit digits) | failure
  return character

def escape : Reader Char := do
  let _ ← Reader.char '\\'
  match ← Reader.satisfy fun _ => true with
  | 'b' => return '\x08'
  | 't' => return '\t'
  | 'n' => return '\n'
  | 'f' => return '\x0c'
  | 'r' => return '\r'
  | '"' => return '"'
  | '\\' => return '\\'
  | 'u' => codePoint 4
  | 'U' => codePoint 8
  | _ => failure

def isBasic (character : Char) : Bool :=
  isShown character && character != '"' && character != '\\'

def basicText : Reader String := do
  let _ ← Reader.char '"'
  let characters ← Reader.manyAll (Reader.satisfy isBasic <|> escape)
  let _ ← Reader.char '"'
  return String.ofList characters

def literalText : Reader String := do
  let _ ← Reader.char '\''
  let characters ← Reader.takeWhile fun character => isShown character && character != '\''
  let _ ← Reader.char '\''
  return String.ofList characters

def innerQuotes (quote : Char) : Reader (List Char) := do
  let quotes ← Reader.takeSome (· == quote)
  if quotes.length ≤ 2 then return quotes else failure

/-- The three quotes that end a long text, and up to two before them that belong to
it. -/
def closingQuotes (quote : Char) : Reader (List Char) := do
  let quotes ← Reader.takeSome (· == quote)
  if 3 ≤ quotes.length && quotes.length ≤ 5 then return quotes.drop 3 else failure

def joinedLines : Reader (List Char) := do
  let _ ← Reader.char '\\'
  spaces
  lineEnd
  let _ ← Reader.manyAll ((do let _ ← Reader.takeSome isSpace) <|> lineEnd)
  return []

/-- A long text between given quotes, made of pieces. A line end right after the
opening quotes is not part of it. -/
def longText (quote : Char) (piece : Reader (List Char)) : Reader String := do
  Reader.literal [quote, quote, quote]
  let _ ← Reader.optional lineEnd
  let pieces ← Reader.manyAll
    (piece <|> (do lineEnd; return ['\n']) <|> innerQuotes quote)
  return String.ofList (pieces.flatten ++ (← closingQuotes quote))

def longBasicText : Reader String :=
  longText '"' ((do return [← Reader.satisfy isBasic]) <|> joinedLines <|>
    (do return [← escape]))

def longLiteralText : Reader String :=
  longText '\'' (Reader.takeSome fun character => isShown character && character != '\'')

def textReader : Reader String :=
  longBasicText <|> basicText <|> longLiteralText <|> literalText

/-! ## Numbers -/

def groupedDigits (test : Char → Bool) : Reader (List Char) := do
  let first ← Reader.satisfy test
  let rest ← Reader.manyAll do
    let _ ← Reader.optional (Reader.char '_')
    Reader.satisfy test
  return first :: rest

def signReader : Reader Bool := do
  let sign ← Reader.optional (Reader.satisfy fun sign => sign == '+' || sign == '-')
  return sign == some '-'

def decimalDigits : Reader (List Char) :=
  (do return [← Reader.char '0']) <|> groupedDigits Char.isDigit

def inRange (negative : Bool) (size : Nat) : Reader Value :=
  if negative then
    if size ≤ UInt64.size / 2 then return .integer (Int64.ofInt (-size)) else failure
  else
    if size < UInt64.size / 2 then return .integer (Int64.ofInt size) else failure

def markedInteger (marks : List Char) (base : Nat) (test : Char → Bool) : Reader Value := do
  Reader.literal marks
  let digits ← groupedDigits test
  inRange false (digits.foldl (fun value digit => base * value + hexValue [digit]) 0)

def integerReader : Reader Value :=
  markedInteger ['0', 'x'] 16 isHexDigit <|>
  markedInteger ['0', 'o'] 8 (fun digit => '0' ≤ digit && digit ≤ '7') <|>
  markedInteger ['0', 'b'] 2 (fun digit => digit == '0' || digit == '1') <|>
  (do
    let negative ← signReader
    inRange negative (Decimal.digitsValue (← decimalDigits)))

def exponentReader : Reader Int := do
  let _ ← Reader.satisfy fun letter => letter == 'e' || letter == 'E'
  let negative ← signReader
  let size := Decimal.digitsValue (← groupedDigits Char.isDigit)
  return if negative then -(size : Int) else size

/-- A float with a fraction, an exponent or both. One that is too large upwards is
refused. -/
def plainFloat : Reader Value := do
  let negative ← signReader
  let whole ← decimalDigits
  let places ← Reader.optional do
    let _ ← Reader.char '.'
    groupedDigits Char.isDigit
  let power ← Reader.optional exponentReader
  if places.isNone && power.isNone then failure
  let places := places.getD []
  let number := Decimal.scaledFloat negative (whole ++ places) (power.getD 0 - places.length)
  if number == 1 / 0 then failure else return .float number

def namedFloat : Reader Value := do
  let negative ← signReader
  (do
    Reader.literal ['i', 'n', 'f']
    return .float (if negative then -(1 / 0) else 1 / 0)) <|>
  (do
    Reader.literal ['n', 'a', 'n']
    return .float (0 / 0))

/-! ## Plain values -/

def plainValue : Reader Value :=
  (do return .text (← textReader)) <|>
  (do return .dateTime (← dateTimeReader)) <|>
  plainFloat <|> namedFloat <|> integerReader <|>
  (do Reader.literal ['t', 'r', 'u', 'e']; return .boolean true) <|>
  (do Reader.literal ['f', 'a', 'l', 's', 'e']; return .boolean false)

/-! ## Keys -/

def simpleKey : Reader String :=
  basicText <|> literalText <|> (do return String.ofList (← Reader.takeSome isBareKeyChar))

/-- How deep values may be nested, and how long a dotted key may be. -/
def depthLimit : Nat := 79

def dottedKey : Reader (List String) := do
  let part : Reader String := do
    spaces
    let key ← simpleKey
    spaces
    return key
  let keys ← Reader.separated (Reader.char '.') part
  if keys.isEmpty || depthLimit < keys.length then failure else return keys

end StoreBench.Toml
