import StoreBench.Crash
import StoreBench.Random.Sample

namespace StoreBench

/-! A choice among values by weight. Weights need not sum to one: a draw is
compared with the sum of all of them. Values keep the order in which they were
registered. -/

structure Weighted (α : Type) where
  entries : List (α × Float)
  total : Float
  last? : Option α

namespace Weighted

variable {α : Type}

def empty : Weighted α := ⟨[], 0, none⟩

instance : Inhabited (Weighted α) := ⟨empty⟩

def add (weighted : Weighted α) (value : α) (weight : Float) : Weighted α :=
  { weighted with
    entries := weighted.entries ++ [(value, weight)]
    total := weighted.total + weight }

def size (weighted : Weighted α) : Nat := weighted.entries.length

def firstReaching (target : Float) : Float → List (α × Float) → Option α
  | _, [] => none
  | sum, (value, weight) :: rest =>
      if target ≤ sum + weight then some value
      else firstReaching target (sum + weight) rest

/-- The value that a fraction of one selects. Rounding may leave the sum of all
weights just below the target; then it is the value registered last. -/
def select? (weighted : Weighted α) (fraction : Float) : Option α :=
  (firstReaching (fraction * weighted.total) 0 weighted.entries).or
    (weighted.entries.getLast?.map Prod.fst)

def draw {σ : Type} [WordSource σ] (weighted : Weighted α) (source : σ) :
    Except Crash (α × Weighted α × σ) :=
  let (fraction, source) := drawFraction source
  match weighted.select? fraction with
  | some value => .ok (value, { weighted with last? := some value }, source)
  | none => .error .nothingToChoose

def last (weighted : Weighted α) : Except Crash α :=
  match weighted.last? with
  | some value => .ok value
  | none => .error .nothingChosen

end Weighted
end StoreBench
