namespace StoreBench

/-! A histogram of recorded values. Small values are told apart exactly. Large ones
fall into buckets that are about a thousandth of the value wide, so three digits
are kept. Values are natural numbers below `2 ^ 64`. -/

/-- The recorded values, in no particular order. -/
structure Histogram where
  values : List Nat
  deriving DecidableEq, Repr

namespace Histogram

def empty : Histogram := ⟨[]⟩

def record (histogram : Histogram) (value : Nat) : Histogram := ⟨value :: histogram.values⟩

def merge (histogram other : Histogram) : Histogram := ⟨histogram.values ++ other.values⟩

def size (histogram : Histogram) : Nat := histogram.values.length

@[simp] theorem size_record (histogram : Histogram) (value : Nat) :
    (histogram.record value).size = histogram.size + 1 := rfl

@[simp] theorem size_merge (histogram other : Histogram) :
    (histogram.merge other).size = histogram.size + other.size :=
  List.length_append

/-! ## Buckets -/

/-- How wide the bucket of a value is: one below 2048, then twice as wide for each
doubling of the value. -/
def width (value : Nat) : Nat := Nat.pow 2 (value.log2 - 10)

def first (value : Nat) : Nat := value - value % width value

def limit : Nat := UInt64.size - 1

/-- The last value in the bucket of a value. The greatest value of all is not counted as
part of its bucket. -/
def last (value : Nat) : Nat := min (first value + width value) limit - 1

example : (first 2047, last 2047) = (2047, 2047) := by decide

example : (first 2501, last 2501) = (2500, 2501) := by decide

theorem first_le_and_le_last {value : Nat} (below : value < limit) :
    first value ≤ value ∧ value ≤ last value := by
  have widthPositive : 0 < width value := Nat.pow_pos (by decide)
  have remainder := Nat.mod_lt value widthPositive
  have bound := Nat.mod_le value (width value)
  simp only [first, last]
  omega

/-! ## Statistics -/

/-- An end of the bucket of a value. The greatest value of all stands for itself. -/
def boundary (bucketEnd : Nat → Nat) (value : Nat) : Nat :=
  if value = limit then limit else bucketEnd value

def least (histogram : Histogram) : Nat := (histogram.values.min?.map (boundary first)).getD 0

def greatest (histogram : Histogram) : Nat :=
  (histogram.values.max?.map (boundary last)).getD 0

example : (Histogram.mk [40, 2500, 1000]).greatest = 2501 := by decide

def sorted (histogram : Histogram) : List Nat := histogram.values.mergeSort

/-- The position, counted from one, of the value that a fraction of all values does
not exceed. -/
def rank (fraction : Float) (count : Nat) : Nat :=
  max 1 (fraction * (UInt64.ofNat count).toFloat).ceil.toUInt64.toNat

def quantile (histogram : Histogram) (fraction : Float) : Nat :=
  ((histogram.sorted[rank fraction histogram.size - 1]?).map last).getD 0

def middle (value : Nat) : Nat := value + width value / 2

def buckets (histogram : Histogram) : List (Nat × Nat) :=
  ((histogram.sorted.map first).splitBy (· == ·)).filterMap fun bucket =>
    bucket.head?.map fun value => (value, bucket.length)

def mean (histogram : Histogram) : Float :=
  let total := (UInt64.ofNat histogram.size).toFloat
  histogram.buckets.foldl (fun sum (value, count) =>
    sum + (UInt64.ofNat (middle value)).toFloat * (UInt64.ofNat count).toFloat / total) 0

end Histogram
end StoreBench
