import StoreBench.Decimal.Nearest

namespace StoreBench

/-! Decimals with two places. The exact value of the float is rounded, and a half
goes to the even neighbour. -/

namespace Decimal

def hundredthsText (hundredths : Nat) : String :=
  let places := Nat.toDigits 10 (hundredths % 100)
  toString (hundredths / 100) ++ "." ++
    String.ofList (List.replicate (2 - places.length) '0' ++ places)

example : hundredthsText 1205 = "12.05" := rfl

def twoPlaces (number : Float) : String :=
  match shapeOf number with
  | .notANumber => "NaN"
  | .infinite negative => if negative then "-inf" else "inf"
  | .finite binary =>
      let (numerator, denominator) := binary.fraction
      let size := hundredthsText (roundHalfEven (100 * numerator) denominator)
      if binary.negative then "-" ++ size else size

end Decimal
end StoreBench
