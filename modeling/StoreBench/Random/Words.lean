namespace StoreBench

/-! Randomness is a supply of 64-bit words that the caller brings along. A draw
takes the words it needs and hands back the rest of the supply, so what is
drawn is a function of the words alone. -/

class WordSource (σ : Type) where
  nextWord : σ → UInt64 × σ

@[inline] def nextHalfWord {σ : Type} [WordSource σ] (source : σ) : Nat × σ :=
  let (word, source) := WordSource.nextWord source
  ((word >>> 32).toNat, source)

/-! ## Scripted words -/

structure Script where
  words : List UInt64
  upcoming : List UInt64
  deriving Repr

namespace Script

def ofList (words : List UInt64) : Script := ⟨words, words⟩

/-- An empty script hands out zero. -/
def next (script : Script) : UInt64 × Script :=
  match script.upcoming, script.words with
  | word :: rest, _ => (word, { script with upcoming := rest })
  | [], word :: rest => (word, { script with upcoming := rest })
  | [], [] => (0, script)

instance : WordSource Script := ⟨next⟩

example :
    let (first, script) := (ofList [7, 9]).next
    let (second, script) := script.next
    let (third, _) := script.next
    [first, second, third] = [7, 9, 7] := rfl

end Script

/-! ## Infinite words -/

instance : WordSource (Nat → UInt64) :=
  ⟨fun words => (words 0, fun index => words (index + 1))⟩

end StoreBench
