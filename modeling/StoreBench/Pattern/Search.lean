import StoreBench.Pattern.CharSet

namespace StoreBench

/-! Patterns by what they match, and the search for them. A search follows all ways at
once: it takes the positions that have been reached to those that are reached after a
part of the pattern. Lists of positions are strictly decreasing. -/

inductive Pattern.Look where
  | textStart
  | textEnd
  | lineStart
  | lineEnd
  /-- A line feed, a carriage return or both of them end a line. -/
  | anyLineStart
  | anyLineEnd
  | wordEdge
  | noWordEdge
  | wordStart
  | wordEnd
  | wordStartHalf
  | wordEndHalf
  deriving DecidableEq, Repr

inductive Pattern where
  | empty
  | literal (characters : List Char)
  | anyOf (set : Pattern.CharSet)
  | look (kind : Pattern.Look)
  | repeated (least : Nat) (most? : Option Nat) (body : Pattern)
  | group (body : Pattern)
  | sequence (parts : List Pattern)
  | either (branches : List Pattern)

namespace Pattern

/-! ## Positions -/

abbrev Positions := List Nat

def union : Positions → Positions → Positions
  | [], right => right
  | left, [] => left
  | position :: left, other :: right =>
      if position = other then position :: union left right
      else if other < position then position :: union left (other :: right)
      else other :: union (position :: left) right
termination_by left right => left.length + right.length

def without : Positions → Positions → Positions
  | [], _ => []
  | left, [] => left
  | position :: left, other :: right =>
      if position = other then without left right
      else if other < position then position :: without left (other :: right)
      else without (position :: left) right
termination_by left right => left.length + right.length

/-! ## Repetition -/

def exactly (step : Positions → Positions) : Nat → Positions → Positions
  | 0, positions => positions
  | count + 1, positions =>
      let next := step positions
      if next = positions then positions else exactly step count next

/-- The positions after at most so many steps, given those that were seen before and those
of them that were seen last. -/
def atMost (step : Positions → Positions) : Nat → Positions → Positions → Positions
  | 0, seen, _ => seen
  | count + 1, seen, latest =>
      match without (step latest) seen with
      | [] => seen
      | fresh => atMost step count (union seen fresh) fresh

/-! ## Matching -/

def isWord (character : Char) : Bool := character.isAlphanum || character = '_'

namespace Look

def holds (look : Look) (before? after? : Option Char) : Bool :=
  let wordBefore := before?.any isWord
  let wordAfter := after?.any isWord
  match look with
  | .textStart => before?.isNone
  | .textEnd => after?.isNone
  | .lineStart => before?.all (· = '\n')
  | .lineEnd => after?.all (· = '\n')
  | .anyLineStart =>
      before?.all fun before => before = '\n' || (before = '\r' && after? ≠ some '\n')
  | .anyLineEnd =>
      after?.all fun after => after = '\r' || (after = '\n' && before? ≠ some '\r')
  | .wordEdge => wordBefore != wordAfter
  | .noWordEdge => wordBefore == wordAfter
  | .wordStart => !wordBefore && wordAfter
  | .wordEnd => wordBefore && !wordAfter
  | .wordStartHalf => !wordBefore
  | .wordEndHalf => !wordAfter

def holdsAt (look : Look) (text : Array Char) (position : Nat) : Bool :=
  let before? := if position = 0 then none else text[position - 1]?
  look.holds before? text[position]?

end Look

def afterOne (text : Array Char) (test : Char → Bool) (positions : Positions) : Positions :=
  positions.filterMap fun position => match text[position]? with
    | some next => if test next then some (position + 1) else none
    | none => none

mutual

def reach (text : Array Char) : Pattern → Positions → Positions
  | .empty, positions => positions
  | .literal characters, positions => characters.foldl
      (fun positions character => afterOne text (· == character) positions) positions
  | .anyOf set, positions => afterOne text set.contains positions
  | .look kind, positions => positions.filter (kind.holdsAt text)
  | .repeated least most? body, positions =>
      let start := exactly (reach text body) least positions
      let more := match most? with
        | some most => most - least
        | none => text.size
      atMost (reach text body) more start start
  | .group body, positions => reach text body positions
  | .sequence parts, positions => reachThrough text parts positions
  | .either branches, positions => reachByAny text branches positions

def reachThrough (text : Array Char) : List Pattern → Positions → Positions
  | [], positions => positions
  | part :: rest, positions => reachThrough text rest (reach text part positions)

def reachByAny (text : Array Char) : List Pattern → Positions → Positions
  | [], _ => []
  | branch :: rest, positions =>
      union (reach text branch positions) (reachByAny text rest positions)

end

/-! ## Repetitions of repetitions

A search would go through the inside of a repetition again for each time that the outside
is repeated. Two repetitions without a limit are as good as one. -/

def joined (least : Nat) (most? : Option Nat) (body : Pattern) : Pattern :=
  match most?, body with
  | none, .repeated 0 none inner | none, .repeated 0 (some 1) inner => .repeated 0 none inner
  | none, .repeated 1 none inner => .repeated least none inner
  | some 1, .repeated inside none inner =>
      if least = 0 && inside ≤ 1 then .repeated 0 none inner else .repeated least most? body
  | _, _ => .repeated least most? body

mutual

/-- A pattern that matches the same, without repetitions right inside repetitions where
they can be joined. -/
def simplified : Pattern → Pattern
  | .repeated least most? body => joined least most? (simplified body)
  | .group body => simplified body
  | .sequence parts => .sequence (allSimplified parts)
  | .either branches => .either (allSimplified branches)
  | pattern => pattern

def allSimplified : List Pattern → List Pattern
  | [] => []
  | part :: rest => simplified part :: allSimplified rest

end

def occursIn (pattern : Pattern) (text : String) : Bool :=
  let characters := text.toList.toArray
  let everywhere := (List.range (characters.size + 1)).reverse
  !(pattern.simplified.reach characters everywhere).isEmpty

end Pattern
end StoreBench
