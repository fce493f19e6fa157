namespace StoreBench.Terminal

/-! What is left of a text when the control sequences for terminals are taken out. An
escape character starts a sequence, in any state. What follows decides which kind of
sequence it is, and so where it ends. A blank control character interrupts most kinds of
sequences: the text from there on is kept, up to the next control character, with which
the sequence goes on. -/

inductive State where
  | outside
  | escape
  | escapeSigns
  | control
  | controlParameters
  | controlSigns
  | controlIgnored
  | device
  | deviceParameters
  | deviceSigns
  /-- In the part of a sequence for a device that the device reads, or in one that is not
  well formed. -/
  | deviceText
  | system
  | unread
  deriving DecidableEq, Repr

def isBlankControl (character : Char) : Bool :=
  character == '\t' || character == '\n' || character == '\x0c' || character == '\r'

def isShown (character : Char) : Bool :=
  isBlankControl character || (0x20 ≤ character.toNat && character != '\x7f')

def isWithin (first last : Nat) (character : Char) : Bool :=
  first ≤ character.toNat && character.toNat ≤ last

def isSign : Char → Bool := isWithin 0x20 0x2f

def isParameter : Char → Bool := isWithin 0x30 0x3b

def isMark : Char → Bool := isWithin 0x3c 0x3f

def isFinal : Char → Bool := isWithin 0x40 0x7e

/-- Whether the bytes of a character include the one that ends a text for a device. -/
def hasTerminator (character : Char) : Bool :=
  character.toString.toUTF8.toList.contains 0x9c

def afterDevice (state : State) (character : Char) : State :=
  if isSign character then .deviceSigns
  else if isFinal character then .deviceText
  else match state with
    | .device => if isParameter character || isMark character then .deviceParameters else state
    | .deviceParameters => if isMark character then .deviceText else state
    | _ => if isWithin 0x30 0x3f character then .deviceText else state

def after (state : State) (character : Char) : State :=
  match state with
  | .outside => .outside
  | .escape =>
      if isSign character then .escapeSigns
      else match character with
        | '[' => .control
        | ']' => .system
        | 'P' => .device
        | 'X' | '^' | '_' => .unread
        | _ => if isWithin 0x30 0x7e character then .outside else .escape
  | .escapeSigns => if isWithin 0x30 0x7e character then .outside else state
  | .control =>
      if isFinal character then .outside
      else if isSign character then .controlSigns
      else if isWithin 0x30 0x3f character then .controlParameters
      else state
  | .controlParameters =>
      if isFinal character then .outside
      else if isSign character then .controlSigns
      else if isMark character then .controlIgnored
      else state
  | .controlSigns =>
      if isFinal character then .outside
      else if isWithin 0x30 0x3f character then .controlIgnored
      else state
  | .controlIgnored => if isFinal character then .outside else state
  | .device | .deviceParameters | .deviceSigns => afterDevice state character
  | .deviceText | .unread => if hasTerminator character then .outside else state
  | .system => if character = '\x07' then .outside else state

def isOpen : State → Bool
  | .escape | .escapeSigns | .control | .controlParameters | .controlSigns
  | .controlIgnored => true
  | _ => false

structure Point where
  state : State := .outside
  shows : Bool := false
  deriving DecidableEq, Repr

def Point.step (point : Point) (character : Char) : Point :=
  if point.shows && isShown character then
    { point with state := if character.toNat < 128 then point.state else .outside }
  else if character = '\x1b' then ⟨.escape, false⟩
  else if character = '\x18' || character = '\x1a' then ⟨.outside, false⟩
  else if point.state = .outside then ⟨.outside, isShown character⟩
  else if isOpen point.state && isBlankControl character then { point with shows := true }
  else ⟨after point.state character, false⟩

def plainFrom (point : Point) : List Char → List Char
  | [] => []
  | character :: rest =>
      let next := point.step character
      if next.shows then character :: plainFrom next rest else plainFrom next rest

def plain (text : String) : String := String.ofList (plainFrom {} text.toList)

example : plain "a\x1b[31mb\x1b[mc" = "abc" := by decide +kernel

example : plain "a\x1b]0;title\x07b" = "ab" := by decide +kernel

example : plain "a\x1b[3\nb" = "a\nb" := by decide +kernel

example : plain "a\x1b[3\nb\x071mc" = "a\nbc" := by decide +kernel

theorem plainFrom_sublist (point : Point) (characters : List Char) :
    (plainFrom point characters).Sublist characters := by
  induction characters generalizing point with
  | nil => simp [plainFrom]
  | cons character rest induction =>
      rw [plainFrom]
      split
      · exact (induction _).cons_cons character
      · exact (induction _).cons character

/-! ## Styles -/

inductive Style where
  | bold
  | boldRed
  | yellow
  | green
  | blue
  | cyan
  | grey
  deriving DecidableEq, Repr

def Style.opening : Style → String
  | .bold => "\x1b[1m"
  | .boldRed => "\x1b[1m\x1b[31m"
  | .yellow => "\x1b[33m"
  | .green => "\x1b[32m"
  | .blue => "\x1b[34m"
  | .cyan => "\x1b[36m"
  | .grey => "\x1b[90m"

def styled (style : Style) (text : String) : String := style.opening ++ text ++ "\x1b[0m"

example : plain (styled .boldRed "error:") = "error:" := by decide +kernel

end StoreBench.Terminal
