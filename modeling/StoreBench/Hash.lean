namespace StoreBench

/-! The hash that scatters key numbers: FNV-1a over the eight bytes of a word. -/

namespace Fnv

def basis : UInt64 := 0xCBF29CE484222325

def prime : UInt64 := 1099511628211

def absorb (hash byte : UInt64) : UInt64 := (hash ^^^ byte) * prime

def absorbBytes : Nat → UInt64 → UInt64 → UInt64
  | 0, hash, _ => hash
  | count + 1, hash, word => absorbBytes count (absorb hash (word &&& 0xff)) (word >>> 8)

end Fnv

/-- The hash of a word: all eight bytes, in little-endian order. -/
def hashWord (word : UInt64) : UInt64 := Fnv.absorbBytes 8 Fnv.basis word

example : hashWord 0 = 12161962213042174405 := by decide

end StoreBench
