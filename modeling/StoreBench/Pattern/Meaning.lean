import StoreBench.Pattern.Grammar
import StoreBench.Pattern.Size

namespace StoreBench.Pattern

/-! What written patterns mean. Flags decide between two readings. With the flag for all
scripts, which is set at first, a part may match any character; but nothing is known of
other scripts than their characters, so classes of them and foldings of case are refused.
Without it, only ASCII has classes and cases, and what might match a part of a character
is refused. -/

structure Mode where
  ignoreCase : Bool := false
  manyLines : Bool := false
  dotTakesAll : Bool := false
  unicode : Bool := true
  carriageReturns : Bool := false
  deriving DecidableEq, Repr

def Mode.set (mode : Mode) : Flag × Bool → Mode
  | (.ignoreCase, value) => { mode with ignoreCase := value }
  | (.manyLines, value) => { mode with manyLines := value }
  | (.dotTakesAll, value) => { mode with dotTakesAll := value }
  | (.unicode, value) => { mode with unicode := value }
  | (.carriageReturns, value) => { mode with carriageReturns := value }
  | (.preferShort, _) | (.extended, _) => mode

def Mode.change (mode : Mode) (change : FlagChange) : Mode := change.foldl Mode.set mode

/-! ## Classes -/

/-- Why there are no characters with a property. Blanks and signs between the letters of
its name do not count, and neither does `is` in front of it. -/
def propertyFault (text : String) : Fault :=
  let name := text.toList.map Char.toLower
  let name := if ['i', 's'].isPrefixOf name then name.drop 2 else name
  let letters := name.filter fun character =>
    character.toNat < 128 && character ≠ ' ' && character ≠ '_' && character ≠ '-'
  if ["cf", "sc", "lc"].contains (String.ofList letters) then .noPropertyValue else .noProperty

namespace Mode

def fold (mode : Mode) (set : CharSet) : Except Fault CharSet :=
  if !mode.ignoreCase then .ok set
  else if !mode.unicode then .ok set.foldCase
  else if set.isEmpty then .ok set
  else .error .noFolding

def whole (mode : Mode) (negated : Bool) (set : CharSet) : Except Fault CharSet := do
  let set ← mode.fold set
  if !negated then return set
  else if mode.unicode then return set.complement
  else throw .brokenCharacters

def member (mode : Mode) (given : Literal) : Except Fault Char :=
  if mode.unicode || given.character.toNat < 128 then .ok given.character
  else .error (if given.isByte then .brokenCharacters else .noUnicodeHere)

def shorthand (mode : Mode) (negated : Bool) (kind : Shorthand) : Except Fault CharSet :=
  if mode.unicode then .error .noShorthand
  else if negated then .error .brokenCharacters
  else .ok kind.set

def property (mode : Mode) (text : String) : Except Fault CharSet :=
  .error (if mode.unicode then propertyFault text else .noUnicodeHere)

mutual

def members (mode : Mode) : ClassItem → Except Fault CharSet
  | .literal given => do return .single (← mode.member given)
  | .range first last => do
      let first ← mode.member first
      return .between first (← mode.member last)
  | .named negated set => mode.whole negated set
  | .shorthand negated kind => mode.shorthand negated kind
  | .property _ text => mode.property text
  | .bracketed negated content => do mode.whole negated (← mode.members content)
  | .union items => mode.allMembers items
  | .combined how left right => do
      let left ← mode.members left
      let right ← mode.members right
      let right ← mode.fold right
      return how.combine (← mode.fold left) right

def allMembers (mode : Mode) : List ClassItem → Except Fault CharSet
  | [] => .ok []
  | item :: rest => do
      let set ← mode.members item
      return set ++ (← mode.allMembers rest)

end

/-! ## Single characters and positions -/

def literal (mode : Mode) (given : Literal) : Except Fault CharSet :=
  if !mode.unicode && given.isByte && 128 ≤ given.character.toNat then
    .error .brokenCharacters
  else mode.fold (.single given.character)

def dot (mode : Mode) : Except Fault CharSet :=
  if !mode.unicode then .error .brokenCharacters
  else if mode.dotTakesAll then .ok .everything
  else if mode.carriageReturns then .ok (CharSet.complement (.single '\n' ++ .single '\r'))
  else .ok (CharSet.complement (.single '\n'))

def look (mode : Mode) : Assertion → Look
  | .textStart => .textStart
  | .textEnd => .textEnd
  | .lineStart =>
      if !mode.manyLines then .textStart
      else if mode.carriageReturns then .anyLineStart
      else .lineStart
  | .lineEnd =>
      if !mode.manyLines then .textEnd
      else if mode.carriageReturns then .anyLineEnd
      else .lineEnd
  | .boundary kind => match kind with
      | .edge => .wordEdge
      | .noEdge => .noWordEdge
      | .wordStart => .wordStart
      | .wordEnd => .wordEnd
      | .wordStartHalf => .wordStartHalf
      | .wordEndHalf => .wordEndHalf

end Mode

/-! ## Expressions -/

structure Meaning where
  pattern : Pattern
  asksForWords : Bool := false

namespace Meaning

def join (combine : List Pattern → Pattern) (meanings : List Meaning) : Meaning :=
  ⟨combine (meanings.map Meaning.pattern), meanings.any Meaning.asksForWords⟩

/-- What is never to be repeated at all means nothing. -/
def times (least : Nat) (most? : Option Nat) (body : Meaning) : Meaning :=
  if most? = some 0 then ⟨.empty, false⟩
  else ⟨.times least most? body.pattern, body.asksForWords⟩

end Meaning

abbrev Interpreting := StateT Mode (Except Fault)

def oneOf (set : Mode → Except Fault CharSet) : Interpreting Meaning := do
  return ⟨.ofSet (← (set (← get) : Except Fault CharSet)), false⟩

mutual

def Expression.interpret : Expression → Interpreting Meaning
  | .empty => return ⟨.empty, false⟩
  | .flags change => do
      modify (·.change change)
      return ⟨.empty, false⟩
  | .literal given => oneOf (·.literal given)
  | .dot => oneOf Mode.dot
  | .assertion kind => do
      let mode ← get
      let asksForWords := match kind with
        | .boundary _ => mode.unicode
        | _ => false
      return ⟨.look (mode.look kind), asksForWords⟩
  | .shorthand negated kind => oneOf (·.shorthand negated kind)
  | .property _ text => oneOf (·.property text)
  | .bracketed negated content => oneOf fun mode => do
      mode.whole negated (← mode.members content)
  | .repeated least most? body => do return (← body.interpret).times least most?
  | .group numbered change body => do
      let mode ← get
      set (mode.change change)
      let meaning ← body.interpret
      set mode
      return if numbered then { meaning with pattern := .group meaning.pattern } else meaning
  | .alternatives branches => do return .join Pattern.ofBranches (← interpretAll branches)
  | .sequence parts => do return .join Pattern.ofParts (← interpretAll parts)

def interpretAll : List Expression → Interpreting (List Meaning)
  | [] => return []
  | part :: rest => do return (← part.interpret) :: (← interpretAll rest)

end

/-! ## Patterns of texts -/

def ofText (text : String) : Except Fault Pattern := do
  let expression ← Expression.read text
  let (meaning, _) ← expression.interpret.run {}
  if meaning.asksForWords then throw .noBoundary
  if Fault.sizeLimit < meaning.pattern.size then throw .tooLarge
  return meaning.pattern

def found? (pattern text : String) : Option Bool :=
  (ofText pattern).toOption.map (·.occursIn text)

example : found? "^a(b|c)+$" "abcb" = some true := by decide +kernel

example : found? "[^a-y]{2,}" "xyzxy" = some false := by decide +kernel

example : found? "(?i)a" "A" = none := by decide +kernel

example : found? "(?i-u)a" "A" = some true := by decide +kernel

end StoreBench.Pattern
