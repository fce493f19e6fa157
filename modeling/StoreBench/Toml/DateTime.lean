import StoreBench.Decimal.Read

namespace StoreBench.Toml

/-! Dates and times: a date, a time of day, or both, and then perhaps an offset from
universal time. -/

structure Date where
  year : Nat
  month : Nat
  day : Nat
  deriving DecidableEq, Repr

structure Time where
  hour : Nat
  minute : Nat
  second : Nat
  nanosecond : Nat
  deriving DecidableEq, Repr

inductive Offset where
  | universal
  | ahead (minutes : Int)
  deriving DecidableEq, Repr

structure DateTime where
  date? : Option Date
  time? : Option Time
  offset? : Option Offset
  deriving DecidableEq, Repr

/-! ## Writing -/

def padded (width number : Nat) : List Char :=
  let digits := Nat.toDigits 10 number
  List.replicate (width - digits.length) '0' ++ digits

def Date.chars (date : Date) : List Char :=
  padded 4 date.year ++ '-' :: padded 2 date.month ++ '-' :: padded 2 date.day

/-- Parts of a second are written without zeros at the end. -/
def Time.chars (time : Time) : List Char :=
  let seconds :=
    padded 2 time.hour ++ ':' :: padded 2 time.minute ++ ':' :: padded 2 time.second
  if time.nanosecond = 0 then seconds
  else
    seconds ++
      '.' :: ((padded 9 time.nanosecond).reverse.dropWhile (· == '0')).reverse

def Offset.chars : Offset → List Char
  | .universal => ['Z']
  | .ahead minutes =>
      (if minutes < 0 then '-' else '+') ::
        padded 2 (minutes.natAbs / 60) ++ ':' :: padded 2 (minutes.natAbs % 60)

def DateTime.chars (moment : DateTime) : List Char :=
  let date := (moment.date?.map Date.chars).getD []
  let time := (moment.time?.map Time.chars).getD []
  let between := if moment.date?.isSome && moment.time?.isSome then ['T'] else []
  date ++ between ++ time ++ (moment.offset?.map Offset.chars).getD []

example :
    (DateTime.mk (some ⟨1979, 5, 27⟩) (some ⟨7, 32, 0, 500000000⟩) (some .universal)).chars =
      "1979-05-27T07:32:00.5Z".toList := by decide +kernel

def DateTime.text (moment : DateTime) : String := String.ofList moment.chars

/-! ## Reading -/

def fixedNumber (digits least greatest : Nat) : Reader Nat := do
  let number := Decimal.digitsValue (← Reader.takeExactly Char.isDigit digits)
  if least ≤ number && number ≤ greatest then return number else failure

def isLeapYear (year : Nat) : Bool :=
  year % 4 == 0 && (year % 100 != 0 || year % 400 == 0)

def daysInMonth (year month : Nat) : Nat :=
  if month == 2 then if isLeapYear year then 29 else 28
  else if [4, 6, 9, 11].contains month then 30
  else 31

def dateReader : Reader Date := do
  let year ← fixedNumber 4 0 9999
  let _ ← Reader.char '-'
  let month ← fixedNumber 2 1 12
  let _ ← Reader.char '-'
  return ⟨year, month, ← fixedNumber 2 1 (daysInMonth year month)⟩

/-- The nanoseconds of the digits after a point. Digits past the ninth are dropped. -/
def nanoseconds (digits : List Char) : Nat :=
  let kept := digits.take 9
  Decimal.digitsValue kept * Nat.pow 10 (9 - kept.length)

def fractionReader : Reader Nat := do
  let _ ← Reader.char '.'
  return nanoseconds (← Reader.takeSome Char.isDigit)

def timeReader : Reader Time := do
  let hour ← fixedNumber 2 0 23
  let _ ← Reader.char ':'
  let minute ← fixedNumber 2 0 59
  let _ ← Reader.char ':'
  let second ← fixedNumber 2 0 60
  return ⟨hour, minute, second, (← Reader.optional fractionReader).getD 0⟩

def Offset.ofSign (sign : Char) (minutes : Nat) : Offset :=
  .ahead (if sign == '-' then -(minutes : Int) else minutes)

def offsetReader : Reader Offset := do
  let sign ← Reader.satisfy fun sign => ['Z', 'z', '+', '-'].contains sign
  if sign == 'Z' || sign == 'z' then return .universal
  let hours ← fixedNumber 2 0 23
  let _ ← Reader.char ':'
  return .ofSign sign (hours * 60 + (← fixedNumber 2 0 59))

def laterTimeReader : Reader Time := do
  let _ ← Reader.satisfy fun between => ['T', 't', ' '].contains between
  timeReader

def dateTimeReader : Reader DateTime :=
  (do
    let date ← dateReader
    match ← Reader.optional laterTimeReader with
    | some time => return ⟨some date, some time, ← Reader.optional offsetReader⟩
    | none => return ⟨some date, none, none⟩) <|>
  (do return ⟨none, some (← timeReader), none⟩)

end StoreBench.Toml
