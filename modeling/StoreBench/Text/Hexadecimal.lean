namespace StoreBench

/-! Numbers to the base of sixteen. -/

def isHexDigit (character : Char) : Bool :=
  character.isDigit || ('a' ≤ character.toLower && character.toLower ≤ 'f')

def hexValue (digits : List Char) : Nat :=
  digits.foldl (fun value digit =>
    16 * value + if digit.isDigit then digit.toNat - 48 else digit.toLower.toNat - 87) 0

example : hexValue "1aF".toList = 431 := by decide

def hexChar? (digits : List Char) : Option Char :=
  let code := hexValue digits
  if code.isValidChar then some (Char.ofNat code) else none

end StoreBench
