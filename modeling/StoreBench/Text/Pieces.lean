namespace StoreBench

/-! Texts that are cut at a separator. -/

def pieces (separator : Char) : List Char → List (List Char)
  | [] => [[]]
  | character :: rest =>
      if character = separator then [] :: pieces separator rest
      else match pieces separator rest with
        | [] => [[character]]
        | piece :: others => (character :: piece) :: others

example : pieces ',' "a,,b".toList = ["a".toList, [], "b".toList] := by decide

theorem pieces_ne_nil (separator : Char) (characters : List Char) :
    pieces separator characters ≠ [] := by
  cases characters with
  | nil => simp [pieces]
  | cons character rest =>
      rw [pieces]
      split
      · simp
      · split <;> simp

theorem intercalate_pieces (separator : Char) (characters : List Char) :
    [separator].intercalate (pieces separator characters) = characters := by
  induction characters with
  | nil => simp [pieces, List.intercalate]
  | cons character rest induction =>
      rw [pieces]
      split
      · rename_i equal
        cases cut : pieces separator rest with
        | nil => exact absurd cut (pieces_ne_nil separator rest)
        | cons piece others =>
            rw [cut] at induction
            simpa [List.intercalate, equal] using induction
      · cases cut : pieces separator rest with
        | nil => exact absurd cut (pieces_ne_nil separator rest)
        | cons piece others =>
            rw [cut] at induction
            cases others with
            | nil => simpa [List.intercalate] using induction
            | cons second more => simpa [List.intercalate] using induction

def textPieces (separator : Char) (text : String) : List String :=
  (pieces separator text.toList).map String.ofList

/-- The lines of a text. A carriage return at the end of a line is not part of it. -/
def textLines (text : String) : List String :=
  (pieces '\n' text.toList).map fun line =>
    String.ofList (if line.getLast? = some '\r' then line.dropLast else line)

example : textLines "a\r\nb" = ["a", "b"] := by decide +kernel

end StoreBench
