namespace StoreBench

/-! Exact steps between fractions of natural numbers and floating-point numbers:
the nearest float of a fraction, and the fraction that a float stands for. -/

namespace Decimal

def roundHalfEven (numerator denominator : Nat) : Nat :=
  let quotient := numerator / denominator
  let twice := 2 * (numerator % denominator)
  if twice > denominator || (twice == denominator && quotient % 2 == 1) then quotient + 1
  else quotient

example : (roundHalfEven 5 2, roundHalfEven 7 2, roundHalfEven 8 3) = (2, 4, 3) := by decide

def divideByPower (numerator denominator : Nat) (power : Int) : Nat × Nat :=
  if power ≥ 0 then (numerator, denominator * Nat.pow 2 power.toNat)
  else (numerator * Nat.pow 2 (-power).toNat, denominator)

/-- The least power of two that the last bit of a float can stand for. -/
def leastPower : Int := -1074

def lastBitPower (numerator denominator : Nat) : Int :=
  let guess : Int := numerator.log2 - denominator.log2 - 52
  let (scaled, divisor) := divideByPower numerator denominator guess
  max leastPower (if scaled < divisor * Nat.pow 2 52 then guess - 1 else guess)

/-- The bits of the float nearest to a fraction. A half goes to the even
neighbour, and a fraction past the largest float goes to infinity. -/
def nearestBits (numerator denominator : Nat) : Nat :=
  if numerator = 0 then 0 else
  let power := lastBitPower numerator denominator
  let (scaled, divisor) := divideByPower numerator denominator power
  let mantissa := roundHalfEven scaled divisor
  let bits := (power - leastPower).toNat * Nat.pow 2 52 + mantissa
  min bits (0x7ff * Nat.pow 2 52)

def nearestFloat (negative : Bool) (numerator denominator : Nat) : Float :=
  Float.ofBits (UInt64.ofNat
    (nearestBits numerator denominator + if negative then Nat.pow 2 63 else 0))

structure Binary where
  negative : Bool
  mantissa : Nat
  power : Int
  deriving DecidableEq, Repr

inductive FloatShape where
  | finite (binary : Binary)
  | infinite (negative : Bool)
  | notANumber
  deriving DecidableEq, Repr

def shapeOfBits (bits : Nat) : FloatShape :=
  let negative := bits / Nat.pow 2 63 % 2 == 1
  let exponent : Nat := bits / Nat.pow 2 52 % Nat.pow 2 11
  let fraction : Nat := bits % Nat.pow 2 52
  if exponent = 0x7ff then
    if fraction = 0 then .infinite negative else .notANumber
  else if exponent = 0 then .finite ⟨negative, fraction, leastPower⟩
  else .finite ⟨negative, Nat.pow 2 52 + fraction, leastPower + (exponent : Int) - 1⟩

def shapeOf (number : Float) : FloatShape := shapeOfBits number.toBits.toNat

def Binary.fraction (binary : Binary) : Nat × Nat :=
  divideByPower binary.mantissa 1 (-binary.power)

example : shapeOfBits 0x3ff8000000000000 = .finite ⟨false, 3 * 2 ^ 51, -52⟩ := by decide

example : nearestBits 3 2 = 0x3ff8000000000000 := by decide

end Decimal
end StoreBench
