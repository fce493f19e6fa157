import StoreBench.Pattern.CharSet
import StoreBench.Pattern.Fault

namespace StoreBench.Pattern

/-! Patterns as they are written. What a part means may depend on flags that are set
before it, so meanings are not given here. -/

inductive Flag where
  | ignoreCase
  | manyLines
  | dotTakesAll
  | preferShort
  | unicode
  /-- A carriage return and a line feed together end a line. -/
  | carriageReturns
  | extended
  deriving DecidableEq, Repr

abbrev FlagChange := List (Flag × Bool)

structure Literal where
  character : Char
  /-- Whether it is written as two hexadecimal digits, which may stand for a byte. -/
  isByte : Bool
  deriving DecidableEq, Repr

inductive Shorthand where
  | digit
  | space
  | word
  deriving DecidableEq, Repr

namespace Shorthand

def set : Shorthand → CharSet
  | .digit => .between '0' '9'
  | .space => CharSet.between '\t' '\r' ++ .single ' '
  | .word =>
      CharSet.between '0' '9' ++ .between 'A' 'Z' ++ .single '_' ++ .between 'a' 'z'

end Shorthand

def namedSets : List (String × CharSet) :=
  let digit := Shorthand.digit.set
  let upper : CharSet := .between 'A' 'Z'
  let lower : CharSet := .between 'a' 'z'
  [("alnum", digit ++ upper ++ lower), ("alpha", upper ++ lower),
    ("ascii", .between '\x00' '\x7f'), ("blank", CharSet.single '\t' ++ .single ' '),
    ("cntrl", CharSet.between '\x00' '\x1f' ++ .single '\x7f'), ("digit", digit),
    ("graph", .between '!' '~'), ("lower", lower), ("print", .between ' ' '~'),
    ("punct", CharSet.between '!' '/' ++ .between ':' '@' ++ .between '[' '\x60' ++
      .between '\x7b' '~'),
    ("space", Shorthand.space.set), ("upper", upper), ("word", Shorthand.word.set),
    ("xdigit", digit ++ .between 'A' 'F' ++ .between 'a' 'f')]

inductive Combination where
  | intersection
  | difference
  | symmetricDifference
  deriving DecidableEq, Repr

def Combination.combine : Combination → CharSet → CharSet → CharSet
  | .intersection => CharSet.intersection
  | .difference => CharSet.difference
  | .symmetricDifference => CharSet.symmetricDifference

inductive ClassItem where
  | literal (given : Literal)
  | range (first last : Literal)
  | named (negated : Bool) (set : CharSet)
  | shorthand (negated : Bool) (kind : Shorthand)
  | property (negated : Bool) (text : String)
  | bracketed (negated : Bool) (content : ClassItem)
  | union (items : List ClassItem)
  | combined (how : Combination) (left right : ClassItem)

inductive Boundary where
  | edge
  | noEdge
  | wordStart
  | wordEnd
  | wordStartHalf
  | wordEndHalf
  deriving DecidableEq, Repr

inductive Assertion where
  | lineStart
  | lineEnd
  | textStart
  | textEnd
  | boundary (kind : Boundary)
  deriving DecidableEq, Repr

inductive Expression where
  | empty
  | flags (change : FlagChange)
  | literal (given : Literal)
  | dot
  | assertion (kind : Assertion)
  | shorthand (negated : Bool) (kind : Shorthand)
  | property (negated : Bool) (text : String)
  | bracketed (negated : Bool) (content : ClassItem)
  | repeated (least : Nat) (most? : Option Nat) (body : Expression)
  /-- The flags are changed inside only. A group may be numbered. -/
  | group (numbered : Bool) (change : FlagChange) (body : Expression)
  | alternatives (branches : List Expression)
  | sequence (parts : List Expression)

namespace ClassItem

def ofItems : List ClassItem → ClassItem
  | [item] => item
  | items => .union items

mutual

def depth : ClassItem → Nat
  | .bracketed _ content => content.depth + 1
  | .union [] => 0
  | .union (item :: rest) => max item.depth (greatestDepth rest) + 1
  | .combined _ left right => max left.depth right.depth + 1
  | _ => 0

def greatestDepth : List ClassItem → Nat
  | [] => 0
  | item :: rest => max item.depth (greatestDepth rest)

end

end ClassItem

namespace Expression

def ofParts : List Expression → Expression
  | [] => .empty
  | [part] => part
  | parts => .sequence parts

mutual

def depth : Expression → Nat
  | .bracketed _ content => content.depth + 1
  | .repeated _ _ body | .group _ _ body => body.depth + 1
  | .alternatives parts | .sequence parts => greatestDepth parts + 1
  | _ => 0

def greatestDepth : List Expression → Nat
  | [] => 0
  | part :: rest => max part.depth (greatestDepth rest)

end

def toClassItem? : Expression → Option ClassItem
  | .literal given => some (.literal given)
  | .shorthand negated kind => some (.shorthand negated kind)
  | .property negated text => some (.property negated text)
  | _ => none

end Expression
end StoreBench.Pattern
