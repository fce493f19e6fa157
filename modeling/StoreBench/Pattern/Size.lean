import StoreBench.Pattern.Build
import StoreBench.Pattern.ByteRange

namespace StoreBench.Pattern

/-! How much space a pattern takes up when it is made ready for a search. It is laid out
as states, once for each direction of reading, with all repetitions written out. A state
takes up the same space whatever it is, and more for each way out of it if it has several:
some ways are taken on a byte within bounds, and others in any case. -/

def stateSize : Nat := 32

def byteWaySize : Nat := 8

def freeWaySize : Nat := 4

def byteState (ways : Nat) : Nat := stateSize + ways * byteWaySize

def freeState (ways : Nat) : Nat := stateSize + ways * freeWaySize

def total (sizes : List Nat) : Nat := sizes.foldr (· + ·) 0

/-! ## Sets -/

def heads (sequences : List ByteRanges) : List ByteRange :=
  (sequences.filterMap List.head?).eraseDups

def tailsAfter (range : ByteRange) (sequences : List ByteRanges) : List ByteRanges :=
  sequences.filterMap fun
    | head :: tail => if head = range then some tail else none
    | [] => none

def stages : Nat → List ByteRanges → List (List ByteRanges)
  | 0, _ => []
  | length + 1, sequences =>
      if sequences = [[]] then []
      else
        sequences ::
          (heads sequences).flatMap fun range => stages length (tailsAfter range sequences)

/-- The size of sequences that are read forward. States with the same ahead are one. -/
def forwardSize (sequences : List ByteRanges) : Nat :=
  total ((stages 4 sequences).eraseDups.map fun stage => byteState (heads stage).length) +
    stateSize

/-- The size of sequences that are read backward. States with the same behind are one. -/
def backwardSize (sequences : List ByteRanges) : Nat :=
  let starts := sequences.flatMap fun ranges =>
    (List.range ranges.length).map fun count => ranges.take (count + 1)
  freeState sequences.length + stateSize + starts.eraseDups.length * stateSize

def setSize (backward : Bool) (set : CharSet) : Nat :=
  if set.all (·.2 < 128) then byteState set.length + stateSize
  else if backward then backwardSize set.sequences
  else forwardSize set.sequences

example : setSize false [(0x61, 0x7a)] = 72 := by decide

example : setSize false [(0, 0x60), (0x62, 0x10ffff)] = 424 := by decide +kernel

example : setSize true [(0, 0x60), (0x62, 0x10ffff)] = 1000 := by decide +kernel

/-! ## Choices between literals -/

def runs : List (List UInt8) → List (List (List UInt8))
  | [] => [[]]
  | [] :: rest => [] :: runs rest
  | text :: rest => match runs rest with
      | run :: others => (text :: run) :: others
      | [] => [[text]]

def firstBytes (texts : List (List UInt8)) : List UInt8 :=
  (texts.filterMap List.head?).eraseDups

/-- The size of texts that are laid out by their first bytes, then by the next ones, for at
most so many bytes. An empty text among others ends a run of them. -/
def textsSize : Nat → List (List UInt8) → Nat
  | 0, _ => 0
  | length + 1, texts =>
      if texts.all List.isEmpty then 0
      else
        let texts := match texts with
          | [] :: rest => [] :: rest.dropWhile List.isEmpty
          | _ => texts
        let runs := runs texts
        let filled := runs.filter (!·.isEmpty)
        freeState (filled.length + (runs.length - 1)) +
          total (filled.map fun run =>
            let bytes := firstBytes run
            (if bytes.length = 1 then stateSize else byteState bytes.length) +
              total (bytes.map fun byte =>
                textsSize length (run.filterMap fun text =>
                  if text.head? = some byte then some text.tail else none)))

def literalTexts? (backward : Bool) : List Pattern → Option (List (List UInt8))
  | [] => some []
  | .literal characters :: rest =>
      let bytes := bytesOf characters
      (literalTexts? backward rest).map ((if backward then bytes.reverse else bytes) :: ·)
  | _ => none

def choiceSize (backward : Bool) (branches : List Pattern) (sizes : List Nat) : Nat :=
  match literalTexts? backward branches with
  | some texts =>
      let longest := (texts.map List.length).foldl max 0
      textsSize (longest + 1) texts + stateSize
  | none => freeState branches.length + stateSize + total sizes

/-! ## All patterns -/

mutual

def needsCharacters : Pattern → Bool
  | .empty | .look _ => false
  | .literal _ => true
  | .anyOf set => !set.isEmpty
  | .repeated least _ body => 0 < least && needsCharacters body
  | .group body => needsCharacters body
  | .sequence parts => somePartNeeds parts
  | .either branches => everyBranchNeeds branches

def somePartNeeds : List Pattern → Bool
  | [] => false
  | part :: rest => needsCharacters part || somePartNeeds rest

def everyBranchNeeds : List Pattern → Bool
  | [] => true
  | branch :: rest => needsCharacters branch && everyBranchNeeds rest

end

/-- The size of a repetition, given the size of what is repeated, and whether that needs
characters. Each time beyond the least one may be left out; without a limit, the last one
may be followed by itself. -/
def repeatedSize (least : Nat) (most? : Option Nat) (body : Nat) (needs : Bool) : Nat :=
  match least, most? with
  | 0, some 1 => freeState 2 + body + stateSize
  | 0, none => if needs then freeState 2 + body else body + freeState 2 + freeState 2 + stateSize
  | least, none => least * body + freeState 2
  | least, some most =>
      if least = most then least * body
      else (if least = 0 then stateSize else least * body) + stateSize +
        (most - least) * (freeState 2 + body)

mutual

def sizeIn (backward : Bool) : Pattern → Nat
  | .empty | .look _ => stateSize
  | .literal characters => (bytesOf characters).length * stateSize
  | .anyOf set => setSize backward set
  | .repeated least most? body =>
      repeatedSize least most? (sizeIn backward body) (needsCharacters body)
  | .group body => (if backward then 0 else 2 * stateSize) + sizeIn backward body
  | .sequence parts => total (sizesIn backward parts)
  | .either branches => choiceSize backward branches (sizesIn backward branches)

def sizesIn (backward : Bool) : List Pattern → List Nat
  | [] => []
  | part :: rest => sizeIn backward part :: sizesIn backward rest

end

/-- The size of a pattern in the direction in which it takes up more. It is a group by
itself, any bytes may stand in front of it, and it has an end. -/
def size (pattern : Pattern) : Nat :=
  let anyBytes : Pattern := .repeated 0 none (.anyOf [(0, 0x7f)])
  let laidOut (backward : Bool) : Nat :=
    sizeIn backward anyBytes + sizeIn backward (.group pattern) + stateSize
  max (laidOut false) (laidOut true)

end StoreBench.Pattern
