import StoreBench.Decimal.Nearest
import StoreBench.Text.Reader

namespace StoreBench

/-! Reading numbers from text. A whole number is a sign and digits, all of them
ASCII. A real number may have a point, an exponent, or be an infinity or no number
in any case of letters. -/

namespace Decimal

def digitsValue (digits : List Char) : Nat :=
  digits.foldl (fun value digit => 10 * value + (digit.toNat - '0'.toNat)) 0

example : digitsValue "0120".toList = 120 := by decide

def splitSign : List Char → Bool × List Char
  | '-' :: rest => (true, rest)
  | '+' :: rest => (false, rest)
  | characters => (false, characters)

inductive WholeFault where
  | empty
  | invalidDigit
  | tooLarge
  | tooSmall
  deriving DecidableEq, Repr

def WholeFault.message : WholeFault → String
  | .empty => "cannot parse integer from empty string"
  | .invalidDigit => "invalid digit found in string"
  | .tooLarge => "number too large to fit in target type"
  | .tooSmall => "number too small to fit in target type"

/-- The number that digits stand for after a value that was read before them, unless it is
beyond a bound. Of several faults, the first one in the text counts. -/
def boundedFrom (bound : Nat) (beyond : WholeFault) (value : Nat) :
    List Char → Except WholeFault Nat
  | [] => .ok value
  | digit :: rest =>
      if !digit.isDigit then .error .invalidDigit
      else
        let value := 10 * value + (digit.toNat - '0'.toNat)
        if bound < value then .error beyond else boundedFrom bound beyond value rest

def bounded (bound : Nat) (beyond : WholeFault) (digits : List Char) : Except WholeFault Nat :=
  if digits.isEmpty then .error .invalidDigit else boundedFrom bound beyond 0 digits

/-- A number below `2 ^ 64`. A minus sign is not a digit. -/
def readNatural (characters : List Char) : Except WholeFault UInt64 :=
  match characters with
  | [] => .error .empty
  | '+' :: digits | digits => (bounded (UInt64.size - 1) .tooLarge digits).map .ofNat

example : readNatural "+18446744073709551615".toList = .ok 18446744073709551615 :=
  rfl

example : readNatural "18446744073709551616x".toList = .error .tooLarge := rfl

example : readNatural "18446744073709551615x".toList = .error .invalidDigit :=
  rfl

def readInteger (characters : List Char) : Except WholeFault Int64 :=
  match characters with
  | [] => .error .empty
  | '-' :: digits => (bounded (UInt64.size / 2) .tooSmall digits).map fun size => .ofInt (-size)
  | '+' :: digits | digits =>
      (bounded (UInt64.size / 2 - 1) .tooLarge digits).map fun size => .ofInt size

/-- The float nearest to digits times a power of ten. Powers that can only lead to
infinity or to zero are not worked out. -/
def scaledFloat (negative : Bool) (digits : List Char) (power : Int) : Float :=
  let value := digitsValue digits
  let size : Int := digits.length + power
  if value = 0 || size < -400 then nearestFloat negative 0 1
  else if 400 < power then nearestFloat negative (Nat.pow 2 1024) 1
  else if 0 ≤ power then nearestFloat negative (value * Nat.pow 10 power.toNat) 1
  else nearestFloat negative value (Nat.pow 10 (-power).toNat)

def exponent : Reader Int := do
  let _ ← Reader.satisfy fun letter => letter == 'e' || letter == 'E'
  let sign ← Reader.optional (Reader.satisfy fun sign => sign == '+' || sign == '-')
  let digits ← Reader.takeSome Char.isDigit
  return if sign == some '-' then -(digitsValue digits : Int) else digitsValue digits

/-- Digits with at most one point among or beside them, then an exponent if there is
one. -/
def unsignedFloat (negative : Bool) : Reader Float := do
  let whole ← Reader.takeWhile Char.isDigit
  let point ← Reader.optional (Reader.char '.')
  let places ← if point.isSome then Reader.takeWhile Char.isDigit else pure []
  if whole.isEmpty && places.isEmpty then failure
  let power ← Reader.optional exponent
  return scaledFloat negative (whole ++ places) (power.getD 0 - places.length)

def readFloat? (characters : List Char) : Option Float :=
  let (negative, size) := splitSign characters
  let name := size.map Char.toLower
  if name == "inf".toList || name == "infinity".toList then
    some (if negative then -(1 / 0) else 1 / 0)
  else if name == "nan".toList then some (0 / 0)
  else Reader.readAll? (unsignedFloat negative) (String.ofList size)

def readBool? (characters : List Char) : Option Bool :=
  if characters == "true".toList then some true
  else if characters == "false".toList then some false
  else none

end Decimal
end StoreBench
