import StoreBench.Benchmark.Configured
import StoreBench.CommandLine.Arguments

namespace StoreBench.CommandLine

/-! What the program answers to its arguments. -/

structure Ending where
  code : Nat
  output : List String := []
  complaints : List String := []
  log : List LogLine := []
  logKeepsStyles : Bool := false

/-! ## Styles -/

def isSet (environment : Environment) (name : String) : Bool :=
  (environment.lookup name).any (· ≠ "")

def insistsOnStyles (environment : Environment) : Bool :=
  isSet environment "CLICOLOR_FORCE" && !isSet environment "NO_COLOR"

/-- Whether the log keeps its styles. A variable of its own may say so. -/
def logKeepsStyles (environment : Environment) : Bool :=
  match environment.lookup "RUST_LOG_STYLE" with
  | some "always" => true
  | some "never" => false
  | _ => insistsOnStyles environment

/-! ## Arguments that lead to no command -/

def explanation : Topic → String
  | .scope .root =>
      "A YCSB-style workload generator and benchmark harness for pluggable stores"
  | .scope .bench => "Load a store and run a workload against it"
  | .scope .list => "List all registered stores"
  | .help => "Print this message or the help of the given subcommand(s)"

def Detour.ending (keepsStyles : Bool) : Detour → Ending
  | .fault found => { code := 2, complaints := [found.message keepsStyles] }
  | .explain topic => { code := 0, output := [explanation topic] }
  | .version => { code := 0, output := ["ycsb-bench 0.1.0"] }
  | .nothing => { code := 2, complaints := [explanation (.scope .root)] }

/-! ## The benchmark -/

abbrev Files := String → Except String String

def readConfig (files : Files) (path : String) : Except ConfigError String :=
  (files path).mapError (.unreadable path)

def Given.options (given : Given) : Options where
  threads? := given.threads?.map UInt64.toNat
  latency? := if given.latency then some true else none
  skipLoad? := if given.skipLoad then some true else none

/-- The run that is asked for. The two configuration files are one document. -/
def prepare (files : Files) (environment : Environment)
    (storeConfig workloadConfig : String) (given : Given) : Except Failure (Run Store) := do
  let store ← readConfig files storeConfig
  let workload ← readConfig files workloadConfig
  Run.configured (store ++ "\n" ++ workload) environment given.options given.properties

def Failure.ending : Failure → Ending
  | .refused error => { code := 1, complaints := ["ycsb-bench: " ++ error.message] }
  | .crashed crash => { code := 101, complaints := [crash.message] }

def logFilter (environment : Environment) (level? : Option LogThreshold) :
    LogFilter × List String :=
  let (filter, faults) := ((environment.lookup "RUST_LOG").map LogFilter.ofText).getD (.empty, [])
  let filter := match level? with
    | some level => filter.withThreshold level
    | none => filter
  (filter, faults.map LogFilterFault.warning)

def runBench (clock : Clock) (entropy : UInt64) (filter : LogFilter) (run : Run Store) :
    Ending :=
  let attempt := run.attempt clock entropy run.schedule
  let output := attempt.results.flatMap fun result =>
    result.report.lines run.benchmark.verbosity
  let log := attempt.log.filter filter.shows
  match attempt.ending with
  | .ok _ => { code := 0, output, log }
  | .error crash => { code := 101, output, complaints := [crash.message], log }

def listOutput : List String := Store.names.map ("Registered store: " ++ ·)

def Command.ending (clock : Clock) (entropy : UInt64) (files : Files)
    (environment : Environment) (filter : LogFilter) : Command → Ending
  | .list => { code := 0, output := listOutput }
  | .bench storeConfig workloadConfig given =>
      match prepare files environment storeConfig workloadConfig given with
      | .error failure => Failure.ending failure
      | .ok run => runBench clock entropy filter run

def answer (clock : Clock) (entropy : UInt64) (files : Files) (environment : Environment)
    (arguments : List String) : Ending :=
  match read arguments with
  | .error detour => detour.ending (insistsOnStyles environment)
  | .ok invocation =>
      let (filter, warnings) := logFilter environment invocation.logLevel?
      let ending := invocation.command.ending clock entropy files environment filter
      { ending with
        complaints := warnings ++ ending.complaints
        logKeepsStyles := logKeepsStyles environment }

end StoreBench.CommandLine
