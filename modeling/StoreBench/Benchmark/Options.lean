import StoreBench.Config.Error

namespace StoreBench

/-! The options of a benchmark. Each may be given in the settings and on the command
line; what nobody gives has a default. -/

inductive Verbosity where
  | hidden
  /-- One line for each phase. -/
  | finish
  /-- One line for each phase, and one for each operation in it. -/
  | all
  deriving DecidableEq, Repr

def Verbosity.ofName (name : String) : Except ConfigError Verbosity :=
  match name with
  | "hidden" => .ok .hidden
  | "finish" => .ok .finish
  | "all" => .ok .all
  | other => .error (.invalidValue "report" other "one of hidden, finish, all")

structure Options where
  threads? : Option Nat := none
  latency? : Option Bool := none
  pin? : Option Bool := none
  seed? : Option UInt64 := none
  report? : Option String := none
  skipLoad? : Option Bool := none
  deriving DecidableEq, Repr

namespace Options

def orElse (options others : Options) : Options where
  threads? := options.threads?.or others.threads?
  latency? := options.latency?.or others.latency?
  pin? := options.pin?.or others.pin?
  seed? := options.seed?.or others.seed?
  report? := options.report?.or others.report?
  skipLoad? := options.skipLoad?.or others.skipLoad?

/-- What is used for options that nobody gives. There is no default seed. -/
def defaults : Options where
  threads? := some 1
  latency? := some false
  pin? := some false
  report? := some "all"
  skipLoad? := some false

def override (overrides options : Options) : Options :=
  (overrides.orElse options).orElse defaults

example : override { threads? := some 2 } { threads? := some 3, pin? := some true } =
    { defaults with threads? := some 2, pin? := some true } := by decide

end Options

structure Benchmark where
  threads : Nat
  threads_pos : 0 < threads
  latency : Bool
  /-- Whether each worker asks for the core with its own number. -/
  pin : Bool
  /-- Without a seed, every run draws differently. -/
  seed? : Option UInt64
  verbosity : Verbosity
  skipLoad : Bool

namespace Benchmark

def ofOptions (options : Options) : Except ConfigError Benchmark :=
  let options := options.orElse .defaults
  let threads := options.threads?.getD 1
  if positive : 0 < threads then do
    let verbosity ← Verbosity.ofName (options.report?.getD "all")
    return {
      threads, threads_pos := positive, verbosity
      latency := options.latency?.getD false
      pin := options.pin?.getD false
      seed? := options.seed?
      skipLoad := options.skipLoad?.getD false }
  else throw (.invalidValue "threads" (toString threads) "a positive integer")

end Benchmark
end StoreBench
