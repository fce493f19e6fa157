namespace StoreBench

/-! A reader takes a value off the front of a list of characters, or fails. -/

abbrev Reader := StateT (List Char) Option

namespace Reader

variable {α β : Type}

def peek : Reader (Option Char) := fun input => some (input.head?, input)

def satisfy (test : Char → Bool) : Reader Char
  | character :: rest => if test character then some (character, rest) else none
  | [] => none

def char (expected : Char) : Reader Char := satisfy (· == expected)

def literal : List Char → Reader Unit
  | [], input => some ((), input)
  | wanted :: more, next :: rest => if next == wanted then literal more rest else none
  | _ :: _, [] => none

def takeWhile (test : Char → Bool) : Reader (List Char) := fun input =>
  some (input.takeWhile test, input.dropWhile test)

def takeSome (test : Char → Bool) : Reader (List Char) := do
  let taken ← takeWhile test
  if taken.isEmpty then failure else return taken

def takeExactly (test : Char → Bool) : Nat → Reader (List Char)
  | 0 => return []
  | count + 1 => do
      let head ← satisfy test
      return head :: (← takeExactly test count)

def optional (reader : Reader α) : Reader (Option α) :=
  (some <$> reader) <|> pure none

def finish : Reader Unit
  | [] => some ((), [])
  | _ :: _ => none

/-- Read values until one cannot be read, at most one for each character of a list. -/
def many (reader : Reader α) : List Char → Reader (List α)
  | [] => return []
  | _ :: limit => do
      match ← optional reader with
      | some value => return value :: (← many reader limit)
      | none => return []

def manyAll (reader : Reader α) : Reader (List α) := fun input => many reader input input

def separated (separator : Reader β) (reader : Reader α) : Reader (List α) := do
  match ← optional reader with
  | some first => return first :: (← manyAll (do let _ ← separator; reader))
  | none => return []

def readAll? (reader : Reader α) (text : String) : Option α :=
  ((do let value ← reader; finish; return value : Reader α).run text.toList).map Prod.fst

end Reader
end StoreBench
