import StoreBench.Distribution.Zipfian

namespace StoreBench

/-! Zipfian popularity counted back from the newest number: the newest is the most
popular. Each draw is told which number is the newest, so numbers that are added
after the choice was made become the popular ones at once. -/

structure Latest where
  ages : Zipfian
  last : UInt64

namespace Latest

/-- The newest number is at the same time the number of ages. -/
def upTo (newest : UInt64) : Except ConfigError Latest := do
  return ⟨← Zipfian.below newest, newest⟩

def draw {σ : Type} [WordSource σ] (latest : Latest) (newest : UInt64) (source : σ) :
    Except Crash (UInt64 × Latest × σ) := do
  let (age, ages, source) ← latest.ages.drawAmong newest source
  let value ← checkedSub newest age
  return (value, ⟨ages, value⟩, source)

end Latest
end StoreBench
