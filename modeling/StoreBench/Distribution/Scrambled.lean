import StoreBench.Distribution.Zipfian
import StoreBench.Hash

namespace StoreBench

/-! Zipfian popularity with the popular numbers scattered: the rank drawn by a
Zipfian choice is hashed into the range, so the skew stays and the most popular
numbers are no longer the lowest ones. -/

structure Scrambled where
  base : UInt64
  items : UInt64
  ranks : Zipfian

namespace Scrambled

def between (lower upper : UInt64) : Except ConfigError Scrambled := do
  let items := Zipfian.itemsBetween lower upper
  return ⟨lower, items, ← Zipfian.below items⟩

def below (items : UInt64) : Except ConfigError Scrambled := do
  Zipfian.checkItems items
  between 0 (items - 1)

def place (scrambled : Scrambled) (rank : UInt64) : Except Crash UInt64 :=
  checkedAdd scrambled.base (hashWord rank % scrambled.items)

def draw {σ : Type} [WordSource σ] (scrambled : Scrambled) (source : σ) :
    Except Crash (UInt64 × Scrambled × σ) := do
  let (rank, ranks, source) ← scrambled.ranks.draw source
  let value ← scrambled.place rank
  return (value, { scrambled with ranks }, source)

def last (scrambled : Scrambled) : Except Crash UInt64 :=
  scrambled.place scrambled.ranks.last

end Scrambled
end StoreBench
