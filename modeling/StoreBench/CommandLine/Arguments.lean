import StoreBench.CommandLine.Property
import StoreBench.CommandLine.Usage
import StoreBench.Log.Filter

namespace StoreBench.CommandLine

/-! Reading the arguments. The value of an option may follow its letter directly, after
an equals sign, or as the next argument; in the last case it is checked only when
something else is taken in after it. Whatever follows two hyphens is no option. -/

structure Given where
  storeConfig? : Option String := none
  workloadConfig? : Option String := none
  threads? : Option UInt64 := none
  properties : List (String × String) := []
  logLevel? : Option LogThreshold := none
  latency : Bool := false
  skipLoad : Bool := false

inductive Topic where
  | scope (scope : Scope)
  | help
  deriving DecidableEq, Repr

inductive Detour where
  | fault (fault : UsageFault)
  | explain (topic : Topic)
  | version
  | nothing

inductive Command where
  | list
  | bench (storeConfig workloadConfig : String) (given : Given)

/-- Arguments while they are taken in: an option may still wait for its value, or for
its value to be checked. -/
structure Intake where
  given : Given := {}
  waiting? : Option (ValueOption × Option String) := none

/-! ## Values -/

def once {α : Type} (value? : Option α) (option : ValueOption) : Except UsageFault Unit :=
  if value?.isSome then .error (.givenAgain option.text) else .ok ()

def Given.put (given : Given) (option : ValueOption) (value : String) :
    Except UsageFault Given := do
  let refuse {α : Type} (fault : ValueFault) : Except UsageFault α :=
    .error (.invalidValue value option fault)
  match option with
  | .storeConfig =>
      once given.storeConfig? option
      return { given with storeConfig? := some value }
  | .workloadConfig =>
      once given.workloadConfig? option
      return { given with workloadConfig? := some value }
  | .threads =>
      once given.threads? option
      match Decimal.readNatural value.toList with
      | .ok count => return { given with threads? := some count }
      | .error fault => refuse (.threads fault)
  | .property => match readProperty? value with
      | some property => return { given with properties := given.properties ++ [property] }
      | none => refuse (.property value)
  | .logLevel =>
      once given.logLevel? option
      match LogThreshold.ofName? value with
      | some threshold => return { given with logLevel? := some threshold }
      | none => refuse .logLevel

namespace Intake

def settle (intake : Intake) : Except UsageFault Intake :=
  match intake.waiting? with
  | none => .ok intake
  | some (option, none) => .error (.valueMissing option)
  | some (option, some value) => do
      return ⟨← intake.given.put option value, none⟩

def wantsValue (intake : Intake) : Bool :=
  match intake.waiting? with
  | some (_, none) => true
  | _ => false

/-! ## Single arguments -/

def flag (scope : Scope) (flag : Flag) (intake : Intake) : Except Detour Intake := do
  let intake ← intake.settle.mapError .fault
  let once (already : Bool) : Except Detour Unit :=
    if already then .error (.fault (.givenAgain flag.text)) else .ok ()
  match flag with
  | .help => throw (.explain (.scope scope))
  | .version => throw .version
  | .latency =>
      once intake.given.latency
      return { intake with given := { intake.given with latency := true } }
  | .skipLoad =>
      once intake.given.skipLoad
      return { intake with given := { intake.given with skipLoad := true } }

def long (scope : Scope) (argument : List Char) (intake : Intake) : Except Detour Intake :=
  let name := String.ofList (argument.takeWhile (· ≠ '='))
  match Flag.withName? scope name, argument.dropWhile (· ≠ '=') with
  | some flag, [] => intake.flag scope flag
  | some flag, _ :: value =>
      .error (.fault (.unexpectedValue (String.ofList value) flag))
  | none, _ => .error (.fault (.unexpectedArgument ("--" ++ name)))

def short (scope : Scope) (letter : Char) (rest : List Char) (intake : Intake) :
    Except Detour Intake := do
  match ValueOption.find? scope letter, Flag.withLetter? scope letter with
  | some option, _ =>
      let intake ← intake.settle.mapError .fault
      match rest with
      | [] => return { intake with waiting? := some (option, none) }
      | _ =>
          let value := if rest.head? = some '=' then rest.tail else rest
          let given ← (intake.given.put option (String.ofList value)).mapError .fault
          return { intake with given }
  | none, some flag => intake.flag scope flag
  | none, none => throw (.fault (.unexpectedArgument ("-" ++ letter.toString)))

def argument (scope : Scope) (argument : String) (intake : Intake) : Except Detour Intake :=
  match argument.toList, intake.waiting? with
  | '-' :: '-' :: rest, _ => intake.long scope rest
  | '-' :: letter :: rest, _ => intake.short scope letter rest
  | _, some (option, none) => .ok { intake with waiting? := some (option, some argument) }
  | _, _ => .error (.fault (.unexpectedArgument argument))

/-! ## Subcommands -/

def subcommand (scope : Scope) : List String → Intake → Except Detour Given
  | [], intake => (intake.settle.mapError .fault).map Intake.given
  | "--" :: rest, intake => match rest with
      | argument :: _ => .error (.fault (.unexpectedArgument argument))
      | [] => (intake.settle.mapError .fault).map Intake.given
  | next :: rest, intake => do subcommand scope rest (← intake.argument scope next)

end Intake

def benchCommand (given : Given) : Except Detour Command :=
  match given.storeConfig?, given.workloadConfig? with
  | some store, some workload => .ok (.bench store workload given)
  | _, _ => .error (.fault .argumentsMissing)

def helpTopic : List String → Detour
  | [] => .explain (.scope .root)
  | [topic] => match topic with
      | "bench" => .explain (.scope .bench)
      | "list" => .explain (.scope .list)
      | "help" => .explain .help
      | other => .fault (.unrecognizedSubcommand other)
  | first :: second :: _ =>
      if ["bench", "list", "help"].contains first then .fault (.unrecognizedSubcommand second)
      else .fault (.unrecognizedSubcommand first)

/-! ## All arguments -/

structure Invocation where
  command : Command
  logLevel? : Option LogThreshold

/-- A command and the arguments before it. The level that is given after a subcommand
is preferred. -/
def invocation (before : Intake) (command : Command) (level? : Option LogThreshold) :
    Except Detour Invocation := do
  let before ← before.settle.mapError .fault
  return ⟨command, level?.or before.given.logLevel?⟩

def noSubcommand (intake : Intake) : Except Detour Invocation := do
  let intake ← intake.settle.mapError .fault
  if intake.given.logLevel?.isSome then throw (.fault .subcommandMissing) else throw .nothing

def readFrom (intake : Intake) : List String → Except Detour Invocation
  | [] => noSubcommand intake
  | "--" :: rest => match rest with
      | argument :: _ => .error (misplaced argument)
      | [] => noSubcommand intake
  | next :: rest =>
      if intake.wantsValue then do readFrom (← intake.argument .root next) rest
      else match next with
        | "bench" => do
            let given ← Intake.subcommand .bench rest {}
            let command ← benchCommand given
            invocation intake command given.logLevel?
        | "list" => do
            let given ← Intake.subcommand .list rest {}
            invocation intake .list given.logLevel?
        | "help" => .error (helpTopic rest)
        | _ =>
            if next.startsWith "-" && next ≠ "-" then do
              readFrom (← intake.argument .root next) rest
            else .error (.fault (.unrecognizedSubcommand next))
where
  /-- An argument after two hyphens names no subcommand. -/
  misplaced (argument : String) : Detour :=
    if ["bench", "list", "help"].contains argument then .fault (.unexpectedArgument argument)
    else .fault (.unrecognizedSubcommand argument)

def read (arguments : List String) : Except Detour Invocation := readFrom {} arguments

def faultLine? (arguments : List String) : Option String :=
  match read arguments with
  | .error (.fault found) => (textLines (found.message false)).head?
  | _ => none

example : faultLine? ["bench", "-t8", "-s"] =
    some "error: a value is required for '-s <STORE_CONFIG>' but none was supplied" := by
  decide +kernel

example : faultLine? ["bench", "-t", "x", "--bogus"] =
    some "error: unexpected argument '--bogus' found" := by decide +kernel

end StoreBench.CommandLine
