import StoreBench.Pattern.Search

namespace StoreBench.Pattern

/-! Patterns put together from parts, and kept as plain as can be: neighbouring literals
become one, a choice between single characters becomes a set, and what all branches of a
choice begin with is taken out of it. -/

def ofSet (set : CharSet) : Pattern :=
  match set.normal with
  | [(first, last)] =>
      if first = last then .literal [Char.ofNat first] else .anyOf [(first, last)]
  | ranges => .anyOf ranges

/-! ## Sequences -/

def parts : Pattern → List Pattern
  | .empty => []
  | .sequence parts => parts
  | pattern => [pattern]

def putFirst : Pattern → List Pattern → List Pattern
  | .literal first, .literal second :: rest => .literal (first ++ second) :: rest
  | part, rest => part :: rest

def ofParts (patterns : List Pattern) : Pattern :=
  match (patterns.flatMap parts).foldr putFirst [] with
  | [] => .empty
  | [part] => part
  | parts => .sequence parts

/-! ## Repetitions -/

mutual

def takesCharacters : Pattern → Bool
  | .empty | .look _ => false
  | .literal _ | .anyOf _ => true
  | .repeated _ _ body | .group body => takesCharacters body
  | .sequence parts | .either parts => someTakesCharacters parts

def someTakesCharacters : List Pattern → Bool
  | [] => false
  | part :: rest => takesCharacters part || someTakesCharacters rest

end

/-- A repetition. There is no need to repeat what takes no characters. -/
def times (least : Nat) (most? : Option Nat) (body : Pattern) : Pattern :=
  let (least, most?) :=
    if takesCharacters body then (least, most?)
    else (min least 1, some ((most?.map (min · 1)).getD 1))
  match least, most? with
  | 0, some 0 => .empty
  | 1, some 1 => body
  | _, _ => .repeated least most? body

/-! ## Choices -/

def branches : Pattern → List Pattern
  | .either branches => branches
  | pattern => [pattern]

def singleCharacters? : List Pattern → Option CharSet
  | [] => some []
  | .literal [only] :: rest => (singleCharacters? rest).map (CharSet.single only ++ ·)
  | _ => none

def joinedSets? : List Pattern → Option CharSet
  | [] => some []
  | .anyOf set :: rest => (joinedSets? rest).map (set ++ ·)
  | _ => none

mutual

def alike : Pattern → Pattern → Bool
  | .empty, .empty => true
  | .literal first, .literal second => first == second
  | .anyOf first, .anyOf second => first == second
  | .look first, .look second => first == second
  | .repeated least most? body, .repeated otherLeast otherMost? other =>
      least == otherLeast && most? == otherMost? && alike body other
  | .sequence first, .sequence second | .either first, .either second => allAlike first second
  | _, _ => false

def allAlike : List Pattern → List Pattern → Bool
  | [], [] => true
  | first :: rest, second :: others => alike first second && allAlike rest others
  | _, _ => false

end

def commonCount : List Pattern → List Pattern → Nat
  | first :: rest, second :: others =>
      if alike first second then commonCount rest others + 1 else 0
  | _, _ => 0

def sharedCount : List (List Pattern) → Nat
  | [] => 0
  | first :: others =>
      others.foldl (fun count parts => min count (commonCount first parts)) first.length

def sequenceParts? : Pattern → Option (List Pattern)
  | .sequence parts => some parts
  | _ => none

/-- Any of several branches. What they all begin with is taken out of them at most so many
times. -/
def choose (limit : Nat) (given : List Pattern) : Pattern :=
  match given.flatMap branches with
  | [] => .anyOf []
  | [branch] => branch
  | given =>
      match (singleCharacters? given).or (joinedSets? given), limit, given.mapM sequenceParts? with
      | some set, _, _ => ofSet set
      | none, limit + 1, some (first :: others) =>
          let count := sharedCount (first :: others)
          let rest (parts : List Pattern) : Pattern := ofParts (parts.drop count)
          if count = 0 then .either given
          else ofParts (first.take count ++ [choose limit ((first :: others).map rest)])
      | none, _, _ => .either given

mutual

def weight : Pattern → Nat
  | .repeated _ _ body | .group body => weight body + 1
  | .sequence parts | .either parts => totalWeight parts + 1
  | _ => 1

def totalWeight : List Pattern → Nat
  | [] => 0
  | part :: rest => weight part + totalWeight rest

end

/-- Any of several branches. Whenever something is taken out of them, they get lighter. -/
def ofBranches (given : List Pattern) : Pattern := choose (totalWeight given) given

end StoreBench.Pattern
