namespace StoreBench

/-! Blank characters are those with the Unicode property of white space. -/

def blankRanges : List (Nat × Nat) :=
  [(0x09, 0x0d), (0x20, 0x20), (0x85, 0x85), (0xa0, 0xa0), (0x1680, 0x1680),
    (0x2000, 0x200a), (0x2028, 0x2029), (0x202f, 0x202f), (0x205f, 0x205f),
    (0x3000, 0x3000)]

def isBlank (character : Char) : Bool :=
  blankRanges.any fun (first, last) => first ≤ character.toNat && character.toNat ≤ last

example : isBlank '\u00a0' = true := by decide

example : isBlank '\u200b' = false := by decide

def trimChars (characters : List Char) : List Char :=
  ((characters.dropWhile isBlank).reverse.dropWhile isBlank).reverse

def trimBlank (text : String) : String := String.ofList (trimChars text.toList)

example : trimChars " a b\t".toList = "a b".toList := by decide

/-- The blank characters among the first 128: tab, line feed, form feed, carriage
return and space. The vertical tab is not one of them. -/
def isPlainBlank (character : Char) : Bool :=
  character == ' ' || character == '\t' || character == '\n' || character == '\r' ||
    character == '\x0c'

end StoreBench
