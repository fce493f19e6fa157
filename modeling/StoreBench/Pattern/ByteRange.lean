import StoreBench.Pattern.CharSet

namespace StoreBench.Pattern

/-! Characters as the bytes of their encoding. The characters of a range make up a few
ranges of byte sequences: each byte of a sequence may be any within bounds of its own. -/

abbrev ByteRange := Nat × Nat

abbrev ByteRanges := List ByteRange

def extend (least greatest : Nat) (sequences : List ByteRanges) : List ByteRanges :=
  sequences.map (· ++ [(0x80 + least, 0x80 + greatest)])

/-- The sequences for the numbers of a range, when the first byte has a mark and so many
bytes with six bits each follow it. -/
def sequencesFrom (mark : Nat) : Nat → Nat → Nat → List ByteRanges
  | 0, first, last => [[(mark + first, mark + last)]]
  | bytes + 1, first, last =>
      let (lower, least) := (first / 64, first % 64)
      let (upper, greatest) := (last / 64, last % 64)
      if lower = upper then extend least greatest (sequencesFrom mark bytes lower upper)
      else
        let start := if least = 0 then lower else lower + 1
        let stop := if greatest = 63 then upper + 1 else upper
        (if least = 0 then [] else extend least 63 (sequencesFrom mark bytes lower lower)) ++
          (if start < stop then extend 0 63 (sequencesFrom mark bytes start (stop - 1)) else []) ++
          (if greatest = 63 then [] else extend 0 greatest (sequencesFrom mark bytes upper upper))

/-- The characters with encodings of one length: the mark of the first byte, the number of
bytes after it, and the bounds of the characters. -/
def encodings : List (Nat × Nat × Nat × Nat) :=
  [(0, 0, 0, 0x7f), (0xc0, 1, 0x80, 0x7ff), (0xe0, 2, 0x800, 0xd7ff), (0xe0, 2, 0xe000, 0xffff),
    (0xf0, 3, 0x10000, 0x10ffff)]

def sequencesOf (range : Nat × Nat) : List ByteRanges :=
  encodings.flatMap fun (mark, bytes, first, last) =>
    let (first, last) := (max first range.1, min last range.2)
    if first ≤ last then sequencesFrom mark bytes first last else []

example : sequencesOf (0x61, 0x3ff) = [[(0x61, 0x7f)], [(0xc2, 0xcf), (0x80, 0xbf)]] := by
  decide

example : sequencesOf (0x20ac, 0x2101) =
    [[(0xe2, 0xe2), (0x82, 0x82), (0xac, 0xbf)], [(0xe2, 0xe2), (0x83, 0x83), (0x80, 0xbf)],
      [(0xe2, 0xe2), (0x84, 0x84), (0x80, 0x81)]] := by decide

def CharSet.sequences (set : CharSet) : List ByteRanges := set.flatMap sequencesOf

def bytesOf (characters : List Char) : List UInt8 :=
  (String.ofList characters).toUTF8.toList

end StoreBench.Pattern
