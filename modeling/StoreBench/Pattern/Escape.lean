import StoreBench.Pattern.Source
import StoreBench.Text.Hexadecimal

namespace StoreBench.Pattern

/-! What a backslash stands for together with the characters after it. -/

namespace Reading

/-! ## Characters by their numbers -/

def hexDigits : Nat → Reading (List Char)
  | 0 => return []
  | count + 1 => do
      let digit ← required .escapeEnds
      if !isHexDigit digit then throw .hexDigit
      advanceSkipping
      return digit :: (← hexDigits count)

/-- A character by its number, after a letter that says how many digits there are if they
do not stand between braces. -/
def hexLiteral (letter : Char) : Reading Expression := do
  let first ← passTo .escapeEnds
  let inBraces := first = '\x7b'
  let digits ← if inBraces then do
      let digits ← braced .escapeEnds fun digit =>
        if isHexDigit digit then .ok () else .error .hexDigit
      advanceSkipping
      if digits.isEmpty then throw .hexEmpty
      pure digits
    else hexDigits (if letter = 'x' then 2 else if letter = 'u' then 4 else 8)
  match hexChar? digits with
  | some character => return .literal ⟨character, !inBraces && letter = 'x'⟩
  | none => throw .hexNoCharacter

/-! ## Properties -/

def property (negated : Bool) : Reading Expression := do
  let first ← passTo .escapeEnds
  if first = '\x7b' then
    let text ← braced .escapeEnds fun _ => .ok ()
    advance
    return .property negated (String.ofList text)
  else if first = '\\' then throw .propertyName
  else
    advance
    return .property negated first.toString

/-! ## Edges of words -/

def isBoundaryChar (character : Char) : Bool := character.isAlpha || character = '-'

/-- What stands between braces after the letter of an edge, unless it is a count. -/
def boundaryName : Reading Boundary := do
  let source ← get
  if source.rest.head? ≠ some '\x7b' then return .edge
  let first ← passTo .boundaryOrCountEnds
  if !isBoundaryChar first then
    set source
    return .edge
  let name ← collect isBoundaryChar
  if (← peek) ≠ some '\x7d' then throw .boundaryUnclosed
  advance
  match String.ofList name with
  | "start" => return .wordStart
  | "end" => return .wordEnd
  | "start-half" => return .wordStartHalf
  | "end-half" => return .wordEndHalf
  | _ => throw .boundaryUnknown

/-! ## All escapes -/

def isMeta (character : Char) : Bool :=
  "\\.+*?()|[]\x7b\x7d^$#&-~".toList.contains character

def isEscapable (character : Char) : Bool :=
  isMeta character ||
    (character.toNat < 128 && !character.isAlphanum && character ≠ '<' && character ≠ '>')

def letterEscape : Char → Except Fault Expression
  | 'a' => .ok (.literal ⟨'\x07', false⟩)
  | 'f' => .ok (.literal ⟨'\x0c', false⟩)
  | 't' => .ok (.literal ⟨'\t', false⟩)
  | 'n' => .ok (.literal ⟨'\n', false⟩)
  | 'r' => .ok (.literal ⟨'\r', false⟩)
  | 'v' => .ok (.literal ⟨'\x0b', false⟩)
  | 'A' => .ok (.assertion .textStart)
  | 'z' => .ok (.assertion .textEnd)
  | 'B' => .ok (.assertion (.boundary .noEdge))
  | '<' => .ok (.assertion (.boundary .wordStart))
  | '>' => .ok (.assertion (.boundary .wordEnd))
  | character =>
      if isEscapable character then .ok (.literal ⟨character, false⟩)
      else .error .escapeUnknown

def escape : Reading Expression := do
  advance
  let character ← required .escapeEnds
  let shorthand (negated : Bool) (kind : Shorthand) : Reading Expression := do
    advance
    return .shorthand negated kind
  match character with
  | 'x' | 'u' | 'U' => hexLiteral character
  | 'p' => property false
  | 'P' => property true
  | 'd' => shorthand false .digit
  | 'D' => shorthand true .digit
  | 's' => shorthand false .space
  | 'S' => shorthand true .space
  | 'w' => shorthand false .word
  | 'W' => shorthand true .word
  | 'b' =>
      advance
      return .assertion (.boundary (← boundaryName))
  | _ =>
      if character.isDigit then throw .backreference
      advance
      letterEscape character

end Reading
end StoreBench.Pattern
