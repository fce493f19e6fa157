import StoreBench.Decimal.Nearest

namespace StoreBench

/-! The shortest decimal that reads back as a given float.

The decimals that read back lie in an interval around the float: halfway to its
neighbours on both sides, the ends included if the mantissa is even. For one digit,
then two, and so on, the two neighbours of the float on the grid of that many
digits are tried; the first grid with a hit wins, and of two hits the nearer. -/

namespace Decimal

structure Scientific where
  digits : Nat
  power : Int
  deriving DecidableEq, Repr

def divideByTens (numerator denominator : Nat) (power : Int) : Nat × Nat :=
  if power ≥ 0 then (numerator, denominator * Nat.pow 10 power.toNat)
  else (numerator * Nat.pow 10 (-power).toNat, denominator)

def digitCount (number : Nat) : Nat := (Nat.toDigits 10 number).length

def leadingZeros : Nat → Nat → Nat → Nat
  | 0, _, _ => 0
  | limit + 1, numerator, denominator =>
      if numerator * 10 < denominator then
        leadingZeros limit (numerator * 10) denominator + 1
      else 0

def magnitude (numerator denominator : Nat) : Int :=
  if denominator ≤ numerator then digitCount (numerator / denominator)
  else -(leadingZeros 400 numerator denominator : Nat)

/-- The numbers that read back as a float, in quarters of its last bit, and whether
the ends belong to them. -/
def quarterInterval (binary : Binary) : Nat × Nat × Bool :=
  let quarters := 4 * binary.mantissa
  let belowGap := if binary.mantissa = Nat.pow 2 52 && leastPower < binary.power then 1 else 2
  (quarters - belowGap, quarters + 2, binary.mantissa % 2 == 0)

/-- The neighbour on a grid of decimals that reads back, if there is one: of two,
the nearer, and the upper if both are as near. -/
def hitOnGrid? (binary : Binary) (power : Int) : Option Scientific :=
  let (least, greatest, closed) := quarterInterval binary
  let quarter := binary.power - 2
  let inside (digits : Nat) : Bool :=
    let (scaled, one) := divideByTens digits 1 (-power)
    let (scaled, one) := divideByPower scaled one quarter
    if closed then least * one ≤ scaled && scaled ≤ greatest * one
    else least * one < scaled && scaled < greatest * one
  let (numerator, denominator) := binary.fraction
  let (numerator, denominator) := divideByTens numerator denominator power
  let below := numerator / denominator
  let above := below + 1
  let upperIsNearer := denominator ≤ 2 * (numerator % denominator)
  match inside below, inside above with
  | true, true => some ⟨if upperIsNearer then above else below, power⟩
  | true, false => some ⟨below, power⟩
  | false, true => some ⟨above, power⟩
  | false, false => none

/-- On the grid of one digit, the upper neighbour of a float right below a power of ten
is ten: the digit one, a place further up. -/
def Scientific.carried (decimal : Scientific) : Scientific :=
  if decimal.digits = 10 then ⟨1, decimal.power + 1⟩ else decimal

/-- The shortest decimal of a positive float. Seventeen digits always suffice. -/
def shortest (binary : Binary) : Scientific :=
  let (numerator, denominator) := binary.fraction
  let first := magnitude numerator denominator
  let grids := (List.range 17).map fun index : Nat => first - 1 - (index : Int)
  ((grids.findSome? (hitOnGrid? binary)).getD ⟨0, 0⟩).carried

def Scientific.positional (decimal : Scientific) : List Char :=
  let digits := Nat.toDigits 10 decimal.digits
  let places := (-decimal.power).toNat
  if 0 ≤ decimal.power then digits ++ List.replicate decimal.power.toNat '0'
  else if places < digits.length then
    digits.take (digits.length - places) ++ '.' :: digits.drop (digits.length - places)
  else '0' :: '.' :: (List.replicate (places - digits.length) '0' ++ digits)

example : (Scientific.mk 15 (-1)).positional = "1.5".toList := by decide

example : (Scientific.mk 5 (-3)).positional = "0.005".toList := by decide

def plain (number : Float) : String :=
  match shapeOf number with
  | .notANumber => "NaN"
  | .infinite negative => if negative then "-inf" else "inf"
  | .finite binary =>
      let size := if binary.mantissa = 0 then ['0'] else (shortest binary).positional
      String.ofList (if binary.negative then '-' :: size else size)

def withPoint (number : Float) : String :=
  match shapeOf number with
  | .finite _ =>
      let text := plain number
      if text.contains '.' then text else text ++ ".0"
  | _ => plain number

end Decimal
end StoreBench
