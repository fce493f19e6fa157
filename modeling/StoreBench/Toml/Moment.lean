import StoreBench.Toml.DateTime

namespace StoreBench.Toml

/-! Texts that stand for a moment. A document gives moments as they are; settings keep
the text of a moment in a table of its own. A text that is no moment is refused at the
first part that does not fit, but the width of numbers and their bounds are looked at only
when all numbers of a date, of a time or of an offset are there. -/

def momentKey : String := "$__toml_private_datetime"

/-! ## Faults -/

inductive MomentPart where
  | moment
  | date
  | join
  | time
  | offset
  deriving DecidableEq, Repr

def MomentPart.name : MomentPart → String
  | .moment => "datetime"
  | .date => "date"
  | .join => "date-time"
  | .time => "time"
  | .offset => "offset"

structure MomentFault where
  part : MomentPart
  wanted? : Option String
  deriving DecidableEq, Repr

def MomentFault.message (fault : MomentFault) : String :=
  "invalid " ++ fault.part.name ++ (fault.wanted?.map (", expected " ++ ·)).getD ""

/-! ## Reading -/

abbrev MomentReader := StateT (List Char) (Except MomentFault)

namespace MomentReader

def demand {α : Type} (part : MomentPart) (wanted : String) (reader : Reader α) :
    MomentReader α := fun input =>
  match reader input with
  | some result => .ok result
  | none => .error ⟨part, some wanted⟩

def digits (part : MomentPart) (wanted : String) : MomentReader (List Char) :=
  demand part wanted (Reader.takeSome Char.isDigit)

def mark (part : MomentPart) (wanted : String) (marks : List Char) : MomentReader Char :=
  demand part wanted (Reader.satisfy marks.contains)

def require (part : MomentPart) (wanted : String) (holds : Bool) : MomentReader Unit :=
  if holds then return else throw ⟨part, some wanted⟩

def requireWidth (part : MomentPart) (wanted : String) (width : Nat) (digits : List Char) :
    MomentReader Unit :=
  require part wanted (digits.length == width)

def atEnd : MomentReader Bool := do return (← get).isEmpty

def dateAfter (year : List Char) : MomentReader Date := do
  let month ← digits .date "month"
  let _ ← mark .date "`-` (MM-DD)" ['-']
  let day ← digits .date "day"
  requireWidth .date "a four-digit year (YYYY)" 4 year
  requireWidth .date "a two-digit month (MM)" 2 month
  requireWidth .date "a two-digit day (DD)" 2 day
  let date : Date :=
    ⟨Decimal.digitsValue year, Decimal.digitsValue month, Decimal.digitsValue day⟩
  require .date "month between 01 and 12" (1 ≤ date.month && date.month ≤ 12)
  let last := daysInMonth date.year date.month
  require .date ("day between 01 and " ++ toString last) (1 ≤ date.day && date.day ≤ last)
  return date

def time : MomentReader Time := do
  let hour ← digits .time "hour"
  let _ ← mark .time "`:` (HH:MM)" [':']
  let minute ← digits .time "minute"
  let _ ← mark .time "`:` (MM:SS)" [':']
  let second ← digits .time "second"
  let fraction ← if (← get).head? = some '.' then do
      modify List.tail
      digits .time "nanosecond"
    else pure []
  requireWidth .time "a two-digit hour (HH)" 2 hour
  requireWidth .time "a two-digit minute (MM)" 2 minute
  requireWidth .time "a two-digit second (SS)" 2 second
  let time : Time := ⟨Decimal.digitsValue hour, Decimal.digitsValue minute,
    Decimal.digitsValue second, nanoseconds fraction⟩
  require .time "hour between 00 and 23" (time.hour ≤ 23)
  require .time "minute between 00 and 59" (time.minute ≤ 59)
  require .time "second between 00 and 60" (time.second ≤ 60)
  return time

def offset : MomentReader Offset := do
  let sign ← mark .offset "`Z`, +OFFSET, -OFFSET" ['Z', 'z', '+', '-']
  if sign == 'Z' || sign == 'z' then return .universal
  let hours ← digits .offset "hour"
  let _ ← mark .offset "`:` (HH:MM)" [':']
  let minutes ← digits .offset "minute"
  requireWidth .offset "a two-digit hours (HH)" 2 hours
  requireWidth .offset "a two-digit minutes (MM)" 2 minutes
  let (hours, minutes) := (Decimal.digitsValue hours, Decimal.digitsValue minutes)
  require .offset "hours between 00 and 23" (hours ≤ 23)
  require .offset "minutes between 00 and 59" (minutes ≤ 59)
  return .ofSign sign (hours * 60 + minutes)

def afterDate (date : Date) : MomentReader DateTime := do
  if ← atEnd then return ⟨some date, none, none⟩
  let _ ← mark .join "`T` between date and time" ['T', 't', ' ']
  let time ← time
  if ← atEnd then return ⟨some date, some time, none⟩
  return ⟨some date, some time, some (← offset)⟩

/-- A whole moment. Its first number may be a year or an hour. -/
def moment : MomentReader DateTime := do
  let start ← get
  let first ← digits .moment "year or hour"
  if (← mark .moment "`-` (YYYY-MM) or `:` (HH:MM)" ['-', ':']) == '-' then
    afterDate (← dateAfter first)
  else
    set start
    return ⟨none, some (← time), none⟩

end MomentReader

def DateTime.ofText (text : String) : Except MomentFault DateTime :=
  match MomentReader.moment text.toList with
  | .ok (moment, []) => .ok moment
  | .ok _ => .error ⟨.moment, none⟩
  | .error fault => .error fault

def momentFault? (text : String) : Option String :=
  match DateTime.ofText text with
  | .ok _ => none
  | .error fault => some fault.message

example : (DateTime.ofText "1979-05-27 00:32:00.5-07:00").toOption.map DateTime.text =
    some "1979-05-27T00:32:00.5-07:00" := by decide +kernel

example : momentFault? "1979-02-30" = some "invalid date, expected day between 01 and 28" := by
  decide +kernel

example : momentFault? "07:32:00Z" = some "invalid datetime" := by decide +kernel

end StoreBench.Toml
