import StoreBench.Text.Pieces
import StoreBench.Text.Terminal

namespace StoreBench

/-! The log of a run. -/

inductive LogLevel where
  | error
  | warn
  | info
  | debug
  | trace
  deriving DecidableEq, Repr

namespace LogLevel

def all : List LogLevel := [.error, .warn, .info, .debug, .trace]

def name : LogLevel → String
  | .error => "ERROR"
  | .warn => "WARN"
  | .info => "INFO"
  | .debug => "DEBUG"
  | .trace => "TRACE"

def index : LogLevel → Nat
  | .error => 0
  | .warn => 1
  | .info => 2
  | .debug => 3
  | .trace => 4

theorem all_index (level : LogLevel) : all[level.index]? = some level := by
  cases level <;> rfl

end LogLevel

inductive LogWriter where
  | harness
  | store
  deriving DecidableEq, Repr

def LogWriter.name : LogWriter → String
  | .harness => "ycsb_bench::bench"
  | .store => "ycsb_bench::stores::basic"

structure LogLine where
  level : LogLevel
  writer : LogWriter
  content : String
  deriving DecidableEq, Repr

def LogLine.text (line : LogLine) : String := line.level.name ++ " " ++ line.content

def LogLevel.style : LogLevel → Terminal.Style
  | .error => .boldRed
  | .warn => .yellow
  | .info => .green
  | .debug => .blue
  | .trace => .cyan

def LogLine.styled (line : LogLine) : String :=
  let level := Terminal.styled line.level.style line.level.name
  Terminal.styled .grey "[" ++ level ++ " " ++ line.writer.name ++
    Terminal.styled .grey "]" ++ " " ++ line.content

def LogLine.written (line : LogLine) (keepsStyles : Bool) : String :=
  if keepsStyles then line.styled else Terminal.plain line.styled

example : (LogLine.mk .info .harness "done\x1b[1m").written false =
    "[INFO ycsb_bench::bench] done" := by decide +kernel

/-- What a line says by itself, without styles. Its content may hold line feeds, and this is
what stands before the first of them. -/
def LogLine.headline (line : LogLine) : String :=
  (textLines (Terminal.plain line.text)).headD ""

end StoreBench
