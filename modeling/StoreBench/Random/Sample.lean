import StoreBench.Crash
import StoreBench.Random.Words

namespace StoreBench

/-! What is made of random words: fractions of one, numbers in a range, and
printable text. -/

variable {σ : Type} [WordSource σ]

@[inline] def drawFraction (source : σ) : Float × σ :=
  let (word, source) := WordSource.nextWord source
  ((word >>> 11).toFloat / 9007199254740992, source)

/-! ## Numbers in a range -/

/-- A number below `count` by widening multiplication: the product of a word
with `count` is split at `width`, the number of values a word can have. The upper
part is the draw. If the lower part is close enough to the next multiple of
`width` that the draw would be biased, a second word decides whether it carries.
A count of zero asks for a whole word. -/
@[specialize] def drawBelow (width count : Nat) (nextWord : σ → Nat × σ) (source : σ) :
    Nat × σ :=
  let (word, source) := nextWord source
  if count = 0 then (word, source) else
  let product := word * count
  let upper := product / width
  let lower := product % width
  if lower > width - count then
    let (second, source) := nextWord source
    if lower + second * count / width < width then (upper, source)
    else (upper + 1, source)
  else (upper, source)

/-- A number between two bounds, both included. The count of candidates is taken
modulo `2 ^ 64`, so the whole range of a word is drawn as one word. -/
def drawBetween (lower upper : UInt64) (source : σ) : UInt64 × σ :=
  let (offset, source) := drawBelow UInt64.size (upper - lower + 1).toNat
    (fun source =>
      let (word, source) := WordSource.nextWord (σ := σ) source
      (word.toNat, source)) source
  (lower + UInt64.ofNat offset, source)

/-! ## Printable text -/

def printableCount : Nat := 94

def drawPrintableChar (source : σ) : Char × σ :=
  let (offset, source) := drawBelow UInt32.size printableCount nextHalfWord source
  (Char.ofNat (33 + offset), source)

def drawPrintableChars : Nat → σ → List Char × σ
  | 0, source => ([], source)
  | length + 1, source =>
      let (head, source) := drawPrintableChar source
      let (tail, source) := drawPrintableChars length source
      (head :: tail, source)

def drawPrintable (length : Nat) (source : σ) : Except Crash (String × σ) := do
  checkCapacity 1 length
  let (characters, source) := drawPrintableChars length source
  return (String.ofList characters, source)

end StoreBench
