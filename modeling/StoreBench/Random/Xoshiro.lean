import StoreBench.Random.Words

namespace StoreBench

/-! The seeded supply of words: the xoshiro256++ generator, whose four state
words are successive outputs of the SplitMix64 sequence of the seed. -/

@[inline] def rotateLeft (word : UInt64) (count : UInt64) : UInt64 :=
  (word <<< count) ||| (word >>> (64 - count))

example : rotateLeft 0x8000000000000001 1 = 3 := by decide

namespace SplitMix

def increment : UInt64 := 0x9e3779b97f4a7c15

def mix (state : UInt64) : UInt64 :=
  let word := (state ^^^ (state >>> 30)) * 0xbf58476d1ce4e5b9
  let word := (word ^^^ (word >>> 27)) * 0x94d049bb133111eb
  word ^^^ (word >>> 31)

/-- The output at a position of the sequence of a seed, counted from one. -/
def output (seed : UInt64) (position : UInt64) : UInt64 :=
  mix (seed + position * increment)

end SplitMix

structure Xoshiro where
  first : UInt64
  second : UInt64
  third : UInt64
  fourth : UInt64
  deriving DecidableEq, Repr

namespace Xoshiro

def ofSeed (seed : UInt64) : Xoshiro where
  first := SplitMix.output seed 1
  second := SplitMix.output seed 2
  third := SplitMix.output seed 3
  fourth := SplitMix.output seed 4

def next (state : Xoshiro) : UInt64 × Xoshiro :=
  let result := rotateLeft (state.first + state.fourth) 23 + state.first
  let shifted := state.second <<< 17
  let third := state.third ^^^ state.first
  let fourth := state.fourth ^^^ state.second
  let second := state.second ^^^ third
  let first := state.first ^^^ fourth
  (result, ⟨first, second, third ^^^ shifted, rotateLeft fourth 45⟩)

instance : WordSource Xoshiro := ⟨next⟩

end Xoshiro
end StoreBench
