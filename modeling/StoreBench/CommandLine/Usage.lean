import StoreBench.Decimal.Read
import StoreBench.Text.Terminal

namespace StoreBench.CommandLine

/-! The options of the command line, and what can be wrong with their use. -/

open Terminal (styled)

inductive Scope where
  | root
  | bench
  | list
  deriving DecidableEq, Repr

inductive ValueOption where
  | storeConfig
  | workloadConfig
  | threads
  | property
  | logLevel
  deriving DecidableEq, Repr

namespace ValueOption

def all : List ValueOption := [.storeConfig, .workloadConfig, .threads, .property, .logLevel]

def letter : ValueOption → Char
  | .storeConfig => 's'
  | .workloadConfig => 'w'
  | .threads => 't'
  | .property => 'p'
  | .logLevel => 'l'

def valueName : ValueOption → String
  | .storeConfig => "STORE_CONFIG"
  | .workloadConfig => "WORKLOAD_CONFIG"
  | .threads => "THREADS"
  | .property => "PROPERTIES"
  | .logLevel => "LOG_LEVEL"

def text (option : ValueOption) : String :=
  "-" ++ option.letter.toString ++ " <" ++ option.valueName ++ ">"

/-- The level of the log may be given everywhere, the others only to the benchmark. -/
def allowedIn (option : ValueOption) (scope : Scope) : Bool :=
  option = .logLevel || scope = .bench

def find? (scope : Scope) (letter : Char) : Option ValueOption :=
  all.find? fun option => option.letter = letter && option.allowedIn scope

end ValueOption

inductive Flag where
  | latency
  | skipLoad
  | help
  | version
  deriving DecidableEq, Repr

namespace Flag

def all : List Flag := [.latency, .skipLoad, .help, .version]

def name : Flag → String
  | .latency => "latency"
  | .skipLoad => "skip-load"
  | .help => "help"
  | .version => "version"

def letter? : Flag → Option Char
  | .latency | .skipLoad => none
  | .help => some 'h'
  | .version => some 'V'

def text (flag : Flag) : String := "--" ++ flag.name

def allowedIn (flag : Flag) (scope : Scope) : Bool :=
  match flag with
  | .latency | .skipLoad => scope = .bench
  | .help => true
  | .version => scope = .root

def withName? (scope : Scope) (name : String) : Option Flag :=
  all.find? fun flag => flag.name = name && flag.allowedIn scope

def withLetter? (scope : Scope) (letter : Char) : Option Flag :=
  all.find? fun flag => flag.letter? = some letter && flag.allowedIn scope

end Flag

/-! ## Faults -/

inductive ValueFault where
  | threads (fault : Decimal.WholeFault)
  | property (given : String)
  | logLevel

def ValueFault.message : ValueFault → String
  | .threads fault => fault.message
  | .property given => "expected key=value, got `" ++ given ++ "`"
  | .logLevel => "attempted to convert a string that doesn't match an existing log level"

inductive UsageFault where
  | unexpectedArgument (argument : String)
  | unrecognizedSubcommand (argument : String)
  | argumentsMissing
  | subcommandMissing
  | valueMissing (option : ValueOption)
  | givenAgain (shown : String)
  | unexpectedValue (value : String) (flag : Flag)
  | invalidValue (value : String) (option : ValueOption) (fault : ValueFault)

def offending : String → String := styled .yellow

def named : String → String := styled .bold

def UsageFault.styledMessage (fault : UsageFault) : String :=
  let stated := match fault with
    | .unexpectedArgument argument =>
        "unexpected argument '" ++ offending argument ++ "' found"
    | .unrecognizedSubcommand argument =>
        "unrecognized subcommand '" ++ offending argument ++ "'"
    | .argumentsMissing => "the following required arguments were not provided:"
    | .subcommandMissing =>
        "'" ++ offending "ycsb-bench" ++ "' requires a subcommand but one was not provided"
    | .valueMissing option =>
        "a value is required for '" ++ named option.text ++ "' but none was supplied"
    | .givenAgain shown =>
        "the argument '" ++ offending shown ++ "' cannot be used multiple times"
    | .unexpectedValue value flag =>
        "unexpected value '" ++ offending value ++ "' for '" ++ named flag.text ++
          "' found; no more were expected"
    | .invalidValue value option fault =>
        "invalid value '" ++ offending value ++ "' for '" ++ named option.text ++ "': " ++
          fault.message
  styled .boldRed "error:" ++ " " ++ stated ++
    "\n\nFor more information, try '" ++ named "--help" ++ "'."

/-- The message as it is written. Without styles, no control sequence is left in it, not even
of what was given. -/
def UsageFault.message (fault : UsageFault) (keepsStyles : Bool) : String :=
  if keepsStyles then fault.styledMessage else Terminal.plain fault.styledMessage

end StoreBench.CommandLine
