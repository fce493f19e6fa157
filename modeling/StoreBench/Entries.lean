namespace StoreBench

/-! Values under names, each name at most once, in the order of the names. -/

abbrev Entries (α : Type) := List (String × α)

namespace Entries

variable {α : Type}

def find? (entries : Entries α) (name : String) : Option α := entries.lookup name

def put (name : String) (value : α) : Entries α → Entries α
  | [] => [(name, value)]
  | (other, kept) :: rest =>
      if name = other then (name, value) :: rest
      else if name < other then (name, value) :: (other, kept) :: rest
      else (other, kept) :: put name value rest

/-- Put a value under a name, in place of the one that was there. A new name comes last,
whatever the order of the others. -/
def assign (name : String) (value : α) : List (String × α) → List (String × α)
  | [] => [(name, value)]
  | (other, kept) :: rest =>
      if other = name then (name, value) :: rest
      else (other, kept) :: assign name value rest

example : assign "a" 3 [("b", 1), ("a", 2)] = [("b", 1), ("a", 3)] := by decide

/-- Put a value under a name and after all others, in place of the one that was there. -/
def assignLast (name : String) (value : α) (entries : List (String × α)) :
    List (String × α) :=
  entries.filter (fun (other, _) => other != name) ++ [(name, value)]

example : assignLast "a" 3 [("a", 1), ("b", 2)] = [("b", 2), ("a", 3)] := by decide

def ofList (named : List (String × α)) : Entries α :=
  named.foldl (fun entries (name, value) => put name value entries) []

@[simp] theorem find?_put_same (name : String) (value : α) (entries : Entries α) :
    (put name value entries).find? name = some value := by
  induction entries with
  | nil => simp [put, find?]
  | cons head rest induction =>
      obtain ⟨other, kept⟩ := head
      rw [put]
      split
      · simp [find?]
      · split
        · simp [find?]
        · rename_i different _
          have unequal : (name == other) = false := by simpa using different
          simpa [find?, List.lookup_cons, unequal] using induction

theorem find?_put_other {name other : String} (value : α) (entries : Entries α)
    (different : other ≠ name) :
    (put name value entries).find? other = entries.find? other := by
  have unequal : (other == name) = false := by simpa using different
  induction entries with
  | nil => simp [put, find?, List.lookup_cons, unequal]
  | cons head rest induction =>
      obtain ⟨next, kept⟩ := head
      rw [put]
      split
      · rename_i equal
        subst equal
        simp [find?, List.lookup_cons, unequal]
      · split
        · simp [find?, List.lookup_cons, unequal]
        · simp only [find?, List.lookup_cons] at induction ⊢
          rw [induction]

end Entries
end StoreBench
