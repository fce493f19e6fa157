namespace StoreBench

/-! A list that is gone through again and again. -/

/-- The value at a position of the endless repetition of a list. An empty list has
no values at all. -/
def cyclic? {α : Type} (values : List α) (position : Nat) : Option α :=
  values[position % values.length]?

example : (List.range 5).map (cyclic? ['a', 'b']) =
    [some 'a', some 'b', some 'a', some 'b', some 'a'] := by decide

end StoreBench
