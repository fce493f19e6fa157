import StoreBench.Pattern.Escape

namespace StoreBench.Pattern

/-! Classes between brackets. A class holds characters, ranges, other classes, and
combinations of what stands to the left and to the right of an operator. Operators are
taken from left to right. -/

structure OpenClass where
  negated : Bool
  /-- The items since the last operator, the latest first. -/
  items : List ClassItem
  left? : Option (Combination × ClassItem) := none

namespace OpenClass

def add (item : ClassItem) (current : OpenClass) : OpenClass :=
  { current with items := item :: current.items }

def content (current : OpenClass) : ClassItem :=
  let right := ClassItem.ofItems current.items.reverse
  match current.left? with
  | some (how, left) => .combined how left right
  | none => right

def operate (how : Combination) (current : OpenClass) : OpenClass :=
  { current with items := [], left? := some (how, current.content) }

end OpenClass

def namedClass? : List Char → Option (ClassItem × List Char)
  | '[' :: ':' :: rest =>
      let (negated, rest) := match rest with
        | '^' :: rest => (true, rest)
        | _ => (false, rest)
      let name := rest.takeWhile (· ≠ ':')
      match rest.drop name.length with
      | ':' :: ']' :: rest =>
          (namedSets.lookup (String.ofList name)).map fun set => (.named negated set, rest)
      | _ => none
  | _ => none

example : (namedClass? "[:digit:]]".toList).map Prod.snd = some [']'] := by decide +kernel

namespace Reading

/-- The opening of a class, up to the first character that has to stand for itself no
longer: hyphens at the start do, and so does a closing bracket. -/
def openClass : Reading OpenClass := do
  let first ← passTo .classUnclosed
  let negated := first = '^'
  let first ← if negated then passTo .classUnclosed else pure first
  let hyphens ← gatherAll do
    if (← peek) = some '-' then
      let _ ← passTo .classUnclosed
      return some (ClassItem.literal ⟨'-', false⟩)
    else return none
  if hyphens.isEmpty && first = ']' then
    let _ ← passTo .classUnclosed
    return { negated, items := [.literal ⟨']', false⟩] }
  return { negated, items := hyphens }

def classCharacter : Reading Expression := do
  let character ← required .classUnclosed
  if character = '\\' then escape
  else
    advance
    return .literal ⟨character, false⟩

/-- The character after the next one. Blanks and the first sign of a comment do not count
in an extended pattern. -/
def peekBeyond : Reading (Option Char) := do
  let source ← get
  let rest := source.rest.tail
  if !source.extended then return rest.head?
  match rest.dropWhile isBlank with
  | '#' :: comment => return ((comment.dropWhile isBlank).head?.or rest.head?)
  | character :: _ => return some character
  | [] => return rest.head?

def classRange : Reading ClassItem := do
  let first ← classCharacter
  skip
  let next ← required .classUnclosed
  let beyond ← peekBeyond
  if next ≠ '-' || beyond = some ']' || beyond = some '-' then
    match first.toClassItem? with
    | some item => return item
    | none => throw .classEscape
  else
    let _ ← passTo .classUnclosed
    match first, ← classCharacter with
    | .literal first, .literal last =>
        if last.character < first.character then throw .rangeReversed
        return .range first last
    | _, _ => throw .rangeBoundary

def combination? : Reading (Option Combination) := do
  if ← takes "&&" then return some .intersection
  else if ← takes "--" then return some .difference
  else if ← takes "~~" then return some .symmetricDifference
  else return none

def classRest (outer : List OpenClass) (current : OpenClass) : Nat → Reading Expression
  | 0 => throw .classUnclosed
  | limit + 1 => do
      skip
      let character ← required .classUnclosed
      if character = '[' then
        let source ← get
        match namedClass? source.rest with
        | some (item, rest) =>
            set { source with rest }
            classRest outer (current.add item) limit
        | none => classRest (current :: outer) (← openClass) limit
      else if character = ']' then
        advance
        match outer with
        | [] => return .bracketed current.negated current.content
        | parent :: others =>
            let item := ClassItem.bracketed current.negated current.content
            classRest others (parent.add item) limit
      else match ← combination? with
        | some how => classRest outer (current.operate how) limit
        | none => classRest outer (current.add (← classRange)) limit

def bracketed : Reading Expression := do
  let limit := (← get).rest.length
  classRest [] (← openClass) limit

end Reading
end StoreBench.Pattern
