import StoreBench.Benchmark.Machine
import StoreBench.CommandLine.Directory
import StoreBench.CommandLine.Program

namespace StoreBench.CommandLine

/-! The program as it runs: files, the environment, the clock and both outputs. What
is written and in which order is settled by the modules that this one uses. -/

/-! ## Input -/

def environmentOf (text : String) : Environment :=
  (pieces '\x00' text.toList).filterMap fun entry =>
    match entry.dropWhile (· ≠ '=') with
    | [] => none
    | _ :: value => some (String.ofList (entry.takeWhile (· ≠ '=')), String.ofList value)

def readEnvironment : IO Environment :=
  tryCatch (do return environmentOf (← IO.FS.readFile "/proc/self/environ")) fun _ => return []

def reason : IO.Error → String
  | .noFileOrDirectory _ _ _ => PathFault.missing.message
  | .inappropriateType _ _ _ => PathFault.isDirectory.message
  | .permissionDenied _ _ _ => "Permission denied (os error 13)"
  | fault => toString fault

def readText (path : String) : IO (Except String String) :=
  tryCatch (do return .ok (← IO.FS.readFile path)) fun fault => return .error (reason fault)

def freshWord : IO UInt64 := do
  let bytes ← IO.getRandomBytes 8
  return bytes.data.foldl (fun word byte => word * 256 + byte.toUInt64) 0

/-! ## Output -/

def showLines (lines : List String) : IO Unit := lines.forM IO.println

structure Logging where
  filter : LogFilter
  keepsStyles : Bool

def showLog (logging : Logging) (lines : List LogLine) : IO Unit :=
  (lines.filter logging.filter.shows).forM fun line =>
    IO.eprintln (line.written logging.keepsStyles)

def finish (ending : Ending) : IO UInt32 := do
  showLines ending.output
  ending.complaints.forM IO.eprintln
  return UInt32.ofNat ending.code

/-! ## Runs -/

/-- The clock and the outputs of the process. A crash is thrown. -/
def machine (logging : Logging) : Machine IO where
  now := IO.monoNanosNow
  log := showLog logging
  print := showLines
  crash reason := throw (IO.userError reason.message)
  crash_bind _ _ := rfl

def bench (logging : Logging) (run : Run Store) : IO UInt32 := do
  let entropy ← freshWord
  tryCatch (do
    let _ ← run.benchOn (machine logging) entropy
    return 0) fun fault => do
      IO.eprintln (toString fault)
      return 101

def execute (arguments : List String) : IO UInt32 := do
  let environment ← readEnvironment
  match read arguments with
  | .error detour => finish (detour.ending (insistsOnStyles environment))
  | .ok invocation =>
      let (filter, warnings) := logFilter environment invocation.logLevel?
      warnings.forM IO.eprintln
      match invocation.command with
      | .list => finish { code := 0, output := listOutput }
      | .bench storeConfig workloadConfig given =>
          let store ← readText storeConfig
          let workload ← readText workloadConfig
          let files (path : String) := if path = storeConfig then store else workload
          match prepare files environment storeConfig workloadConfig given with
          | .error failure => finish (Failure.ending failure)
          | .ok run => bench ⟨filter, logKeepsStyles environment⟩ run

end StoreBench.CommandLine

def main (arguments : List String) : IO UInt32 := StoreBench.CommandLine.execute arguments
