namespace StoreBench.Pattern

/-! Sets of characters, as lists of ranges of code points. The ranges may overlap and
come in any order. -/

abbrev CharSet := List (Nat × Nat)

namespace CharSet

def contains (set : CharSet) (character : Char) : Bool :=
  set.any fun (first, last) => first ≤ character.toNat && character.toNat ≤ last

def between (first last : Char) : CharSet := [(first.toNat, last.toNat)]

def single (character : Char) : CharSet := between character character

/-- All characters. The code points between the two ranges are none. -/
def everything : CharSet := [(0, 0xd7ff), (0xe000, 0x10ffff)]

def intersection (left right : CharSet) : CharSet :=
  left.flatMap fun (first, last) => right.filterMap fun (otherFirst, otherLast) =>
    let (first, last) := (max first otherFirst, min last otherLast)
    if first ≤ last then some (first, last) else none

def withoutRange (set : CharSet) (gap : Nat × Nat) : CharSet :=
  set.flatMap fun (first, last) =>
    (if first < gap.1 then [(first, min last (gap.1 - 1))] else []) ++
      (if gap.2 < last then [(max first (gap.2 + 1), last)] else [])

def difference (left right : CharSet) : CharSet := right.foldl withoutRange left

def complement (set : CharSet) : CharSet := everything.difference set

def symmetricDifference (left right : CharSet) : CharSet :=
  left.difference right ++ right.difference left

def foldCase (set : CharSet) : CharSet :=
  let lower := (set.intersection (between 'A' 'Z')).map fun (first, last) => (first + 32, last + 32)
  let upper := (set.intersection (between 'a' 'z')).map fun (first, last) => (first - 32, last - 32)
  set ++ lower ++ upper

def insertRange : Nat × Nat → CharSet → CharSet
  | range, [] => [range]
  | range, other :: rest =>
      if range.2 + 1 < other.1 then range :: other :: rest
      else if other.2 + 1 < range.1 then other :: insertRange range rest
      else insertRange (min range.1 other.1, max range.2 other.2) rest

def normal (set : CharSet) : CharSet := set.foldr insertRange []

example : normal [(5, 9), (20, 30), (1, 4)] = [(1, 9), (20, 30)] := by decide

example : complement [(98, 0x10ffff)] = [(0, 97)] := by decide

example : difference (between 'a' 'z') (between 'c' 'x') = [(97, 98), (121, 122)] := by decide

example : foldCase (single 'k') = [(107, 107), (75, 75)] := by decide

theorem contains_append (left right : CharSet) (character : Char) :
    contains (left ++ right) character = (left.contains character || right.contains character) :=
  List.any_append

theorem contains_withoutRange (set : CharSet) (gap : Nat × Nat) (character : Char) :
    (set.withoutRange gap).contains character =
      (set.contains character && !contains [gap] character) := by
  induction set with
  | nil => rfl
  | cons range rest induction =>
      simp only [withoutRange, List.flatMap_cons] at induction ⊢
      rw [contains_append, induction]
      simp only [contains, List.any_cons, List.any_nil, Bool.or_false, List.any_append]
      split <;> split <;> grind

end CharSet
end StoreBench.Pattern
