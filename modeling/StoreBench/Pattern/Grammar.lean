import StoreBench.Decimal.Read
import StoreBench.Pattern.ClassReading
import StoreBench.Text.Letter

namespace StoreBench.Pattern

/-! The grammar of patterns: parts, repetitions of them, choices and groups. -/

namespace Reading

/-! ## Repetitions -/

def count : Reading (Except Fault Nat) := do
  modify fun source => { source with rest := source.rest.dropWhile isBlank }
  let digits ← collect Char.isDigit
  let _ ← collect isBlank
  let number := Decimal.digitsValue digits
  return if digits.isEmpty then .error .countEmpty
    else if number < UInt32.size then .ok number
    else .error .countTooLarge

def countBounds : Reading (Nat × Option Nat) := do
  let _ ← passTo .countUnclosed
  let least ← count
  let bounds ← if (← required .countUnclosed) = ',' then
      if (← passTo .countUnclosed) = '\x7d' then pure (← least, none)
      else
        let least ← (least : Except Fault Nat)
        let most ← (← count : Except Fault Nat)
        pure (least, some most)
    else
      let exact ← (least : Except Fault Nat)
      pure (exact, some exact)
  if (← peek) ≠ some '\x7d' then throw .countUnclosed
  advanceSkipping
  return bounds

/-- A mark that short repetitions are preferred, or long ones. It makes no difference to
whether a pattern occurs. -/
def preference : Reading Unit := do
  let _ ← takes "?"

def bounds (sign : Char) : Reading (Nat × Option Nat) := do
  if sign = '\x7b' then
    let (least, most?) ← countBounds
    preference
    if most?.any (· < least) then throw .countReversed
    return (least, most?)
  else
    advance
    preference
    return (if sign = '+' then 1 else 0, if sign = '?' then some 1 else none)

/-! ## Groups -/

def flag? : Char → Option Flag
  | 'i' => some .ignoreCase
  | 'm' => some .manyLines
  | 's' => some .dotTakesAll
  | 'U' => some .preferShort
  | 'u' => some .unicode
  | 'R' => some .carriageReturns
  | 'x' => some .extended
  | _ => none

def flagsFrom (change : FlagChange) (negated lastNegated : Bool) : Nat → Reading FlagChange
  | 0 => throw .flagEnds
  | limit + 1 => do
      let character ← required .flagEnds
      if character = ':' || character = ')' then
        if lastNegated then throw .flagDangling
        return change
      else if character = '-' then
        if negated then throw .negationTwice
        advance
        let _ ← required .flagEnds
        flagsFrom change true true limit
      else match flag? character with
        | none => throw .flagUnknown
        | some flag =>
            if change.any (·.1 = flag) then throw .flagTwice
            advance
            let _ ← required .flagEnds
            flagsFrom (change ++ [(flag, !negated)]) negated false limit

def flags : Reading FlagChange := do flagsFrom [] false false ((← get).rest.length)

def isNameChar (first : Bool) (character : Char) : Bool :=
  character = '_' ||
    if first then isLetter character
    else character = '.' || character = '[' || character = ']' || isLetterOrNumber character

def nameChars (first : Bool) : Nat → Reading (List Char)
  | 0 => return []
  | limit + 1 => do
      match ← peek with
      | none | some '>' => return []
      | some character =>
          if !isNameChar first character then throw .nameInvalid
          advance
          return character :: (← nameChars false limit)

def groupName : Reading Unit := do
  let name := String.ofList (← nameChars true ((← get).rest.length))
  let _ ← required .nameUnclosed
  advance
  if name = "" then throw .nameEmpty
  if (← get).names.contains name then throw .nameTwice
  modify fun source => { source with names := name :: source.names }

inductive Opening where
  | change (change : FlagChange)
  | group (numbered : Bool) (change : FlagChange)

def opening : Reading Opening := do
  advanceSkipping
  let rest := (← get).rest
  if ["?=", "?!", "?<=", "?<!"].any fun looks => looks.toList.isPrefixOf rest then
    throw .lookAround
  if (← takes "?P<") || (← takes "?<") then
    groupName
    return .group true []
  else if ← takes "?" then
    let _ ← required .groupUnclosed
    let change ← flags
    let closing ← peek
    advance
    if closing = some ':' then return .group false change
    else if change.isEmpty then throw .nothingToRepeat
    else return .change change
  else return .group true []

def setExtended (change : FlagChange) : Reading Unit := do
  match change.lookup .extended with
  | some extended => modify fun source => { source with extended }
  | none => return ()

/-! ## Whole patterns -/

structure Level where
  /-- The parts since the last bar, the latest first. -/
  parts : List Expression := []
  branches : List Expression := []

namespace Level

def add (part : Expression) (level : Level) : Level :=
  { level with parts := part :: level.parts }

def branch (level : Level) : Expression := .ofParts level.parts.reverse

def turn (level : Level) : Level := ⟨[], level.branch :: level.branches⟩

def close (level : Level) : Expression :=
  match level.branches with
  | [] => level.branch
  | branches => .alternatives (level.branch :: branches).reverse

end Level

/-- A level around a group: what it holds so far, whether the group is numbered, its flags,
and whether blanks count outside. -/
structure Outer where
  level : Level
  numbered : Bool
  change : FlagChange
  extended : Bool

def single (character : Char) : Reading Expression := do
  match character with
  | '[' => bracketed
  | '\\' => escape
  | _ =>
      advance
      match character with
      | '.' => return .dot
      | '^' => return .assertion .lineStart
      | '$' => return .assertion .lineEnd
      | _ => return .literal ⟨character, false⟩

def repeatLatest (sign : Char) (level : Level) : Reading Level := do
  match level.parts with
  | [] | .flags _ :: _ => throw .nothingToRepeat
  | body :: others =>
      let (least, most?) ← bounds sign
      return { level with parts := .repeated least most? body :: others }

def rest (outer : List Outer) (level : Level) : Nat → Reading Expression
  | 0 => return level.close
  | limit + 1 => do
      skip
      match ← peek with
      | none =>
          if !outer.isEmpty then throw .groupUnclosed
          return level.close
      | some '(' => match ← opening with
          | .change change =>
              setExtended change
              rest outer (level.add (.flags change)) limit
          | .group numbered change =>
              let extended := (← get).extended
              setExtended change
              rest (⟨level, numbered, change, extended⟩ :: outer) {} limit
      | some ')' => match outer with
          | [] => throw .groupUnopened
          | ⟨parent, numbered, change, extended⟩ :: others =>
              modify fun source => { source with extended }
              advance
              rest others (parent.add (.group numbered change level.close)) limit
      | some '|' =>
          advance
          rest outer level.turn limit
      | some character =>
          if "?*+\x7b".toList.contains character then
            rest outer (← repeatLatest character level) limit
          else rest outer (level.add (← single character)) limit

end Reading

def Expression.read (text : String) : Except Fault Expression := do
  let (expression, _) ← (Reading.rest [] {} (text.length + 1)).run { rest := text.toList }
  if Fault.depthLimit < expression.depth then throw .tooDeep
  return expression

end StoreBench.Pattern
