import StoreBench.Log.Line
import StoreBench.Pattern.Meaning

namespace StoreBench

/-! Which lines of the log are shown. A filter has directives, each with a threshold
for the writers whose names begin with a given text, or for all writers. It may also ask
for a pattern in the lines. -/

abbrev LogThreshold := Option LogLevel

namespace LogThreshold

def ofName? (name : String) : Option LogThreshold :=
  let upper := String.ofList (name.toList.map Char.toUpper)
  if upper = "OFF" then some none
  else (LogLevel.all.find? (·.name == upper)).map some

example : ofName? "Warn" = some (some .warn) := by decide +kernel

def shows (threshold : LogThreshold) (level : LogLevel) : Bool :=
  match threshold with
  | some greatest => level.index ≤ greatest.index
  | none => false

end LogThreshold

structure LogDirective where
  opening? : Option String
  threshold : LogThreshold
  deriving DecidableEq, Repr

namespace LogDirective

def concerns (directive : LogDirective) (writer : LogWriter) : Bool :=
  match directive.opening? with
  | some opening => opening.toList.isPrefixOf writer.name.toList
  | none => true

def length (directive : LogDirective) : Nat := (directive.opening?.map String.length).getD 0

end LogDirective

structure LogFilter where
  directives : List LogDirective
  pattern? : Option Pattern

inductive LogFilterFault where
  | unreadable (part : String)
  | tooManySlashes (text : String)
  | pattern (fault : Pattern.Fault)
  deriving DecidableEq, Repr

def LogFilterFault.message : LogFilterFault → String
  | .unreadable part => "invalid logging spec '" ++ part ++ "'"
  | .tooManySlashes text => "invalid logging spec '" ++ text ++ "' (too many '/'s)"
  | .pattern fault => "invalid regex filter - " ++ fault.report

def LogFilterFault.warning (fault : LogFilterFault) : String :=
  "warning: " ++ fault.message ++ ", ignoring it"

namespace LogFilter

def empty : LogFilter := ⟨[], none⟩

def put (directive : LogDirective) : List LogDirective → List LogDirective
  | [] => [directive]
  | other :: rest =>
      if other.opening? = directive.opening? then directive :: rest
      else other :: put directive rest

def withThreshold (filter : LogFilter) (threshold : LogThreshold) : LogFilter :=
  { filter with directives := put ⟨none, threshold⟩ filter.directives }

/-- One directive: a threshold, the opening of names, or both with an equals sign
between them. An opening by itself shows everything. -/
def directive (text : String) : Except LogFilterFault LogDirective :=
  match textPieces '=' text with
  | [single] => match LogThreshold.ofName? single with
      | some threshold => .ok ⟨none, threshold⟩
      | none => .ok ⟨some single, some .trace⟩
  | [opening, level] =>
      let level := trimBlank level
      if level = "" then .ok ⟨some opening, some .trace⟩
      else match LogThreshold.ofName? level with
        | some threshold => .ok ⟨some opening, threshold⟩
        | none => .error (.unreadable level)
  | _ => .error (.unreadable text)

def readDirectives (text : String) : List (Except LogFilterFault LogDirective) :=
  (((textPieces ',' text).map trimBlank).filter (· ≠ "")).map directive

/-- Directives, then perhaps a slash and a pattern. What is at fault is passed over. -/
def ofText (text : String) : LogFilter × List LogFilterFault :=
  let ofParts (given : String) (pattern : Except LogFilterFault (Option Pattern)) :=
    let read := readDirectives given
    let kept := (read.filterMap Except.toOption).foldl (fun kept next => put next kept) []
    let faults := read.filterMap fun
      | .error fault => some fault
      | .ok _ => none
    match pattern with
    | .ok pattern? => (⟨kept, pattern?⟩, faults)
    | .error fault => (⟨kept, none⟩, faults ++ [fault])
  match textPieces '/' text with
  | [given] => ofParts given (.ok none)
  | [given, pattern] =>
      ofParts given (((Pattern.ofText pattern).map some).mapError .pattern)
  | _ => (empty, [.tooManySlashes text])

def moreSpecific (first second : LogDirective) : LogDirective :=
  if first.length ≤ second.length then second else first

/-- The threshold for a writer: the most specific directive about it decides. Without
any directives, errors are shown. -/
def threshold (filter : LogFilter) (writer : LogWriter) : LogThreshold :=
  if filter.directives.isEmpty then some .error
  else match filter.directives.filter (·.concerns writer) with
    | first :: rest => (rest.foldl moreSpecific first).threshold
    | [] => none

example : (ofText "warn,ycsb_bench::stores=info").1.threshold .store = some .info := by
  decide +kernel

example : (ofText "warn,ycsb_bench::stores=info").1.threshold .harness = some .warn := by
  decide +kernel

example : empty.threshold .harness = some .error := by decide +kernel

def shows (filter : LogFilter) (line : LogLine) : Bool :=
  (filter.threshold line.writer).shows line.level &&
    filter.pattern?.all (·.occursIn line.content)

end LogFilter
end StoreBench
