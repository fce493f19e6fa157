import StoreBench.Pattern.Expression
import StoreBench.Text.Blank

namespace StoreBench.Pattern

/-! A pattern while it is read from its first character to its last. In an extended
pattern, blanks and comments may stand between most characters. -/

structure Source where
  rest : List Char
  extended : Bool := false
  names : List String := []

abbrev Reading := StateT Source (Except Fault)

/-- What is left without the blanks and comments in front. A comment ends with its
line. -/
def skipComments : Bool → List Char → List Char
  | _, [] => []
  | true, character :: rest => skipComments (character ≠ '\n') rest
  | false, character :: rest =>
      if isBlank character then skipComments false rest
      else if character = '#' then skipComments true rest
      else character :: rest

namespace Reading

def peek : Reading (Option Char) := do return (← get).rest.head?

def required (fault : Fault) : Reading Char := do
  match ← peek with
  | some character => return character
  | none => throw fault

def advance : Reading Unit := modify fun source => { source with rest := source.rest.tail }

def skip : Reading Unit := modify fun source =>
  if source.extended then { source with rest := skipComments false source.rest } else source

def advanceSkipping : Reading Unit := do
  advance
  skip

def passTo (fault : Fault) : Reading Char := do
  advanceSkipping
  required fault

def takes (text : String) : Reading Bool := do
  let source ← get
  let wanted := text.toList
  if wanted.isPrefixOf source.rest then
    set { source with rest := source.rest.drop wanted.length }
    return true
  else return false

def gather {α : Type} (next : Reading (Option α)) : Nat → Reading (List α)
  | 0 => return []
  | limit + 1 => do
      match ← next with
      | some value => return value :: (← gather next limit)
      | none => return []

def gatherAll {α : Type} (next : Reading (Option α)) : Reading (List α) := do
  gather next (← get).rest.length

def collect (test : Char → Bool) : Reading (List Char) := gatherAll do
  match ← peek with
  | some character =>
      if test character then
        advanceSkipping
        return some character
      else return none
  | none => return none

/-- The characters between braces, the first of which comes next. Every one has to pass a
check. The second brace is left in place. -/
def braced (unclosed : Fault) (check : Char → Except Fault Unit) : Reading (List Char) :=
  gatherAll do
    let character ← passTo unclosed
    if character = '\x7d' then return none
    let _ ← (check character : Except Fault Unit)
    return some character

end Reading
end StoreBench.Pattern
