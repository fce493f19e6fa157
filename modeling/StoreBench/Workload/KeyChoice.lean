import StoreBench.Config.Failure
import StoreBench.Distribution.Latest
import StoreBench.Distribution.Scrambled
import StoreBench.Distribution.Uniform

namespace StoreBench

/-! Which key numbers transactions are aimed at. -/

inductive RequestDistribution where
  | uniform
  | zipfian
  | latest
  deriving DecidableEq, Repr

def RequestDistribution.ofName (name : String) : Except ConfigError RequestDistribution :=
  match name with
  | "uniform" => .ok .uniform
  | "zipfian" => .ok .zipfian
  | "latest" => .ok .latest
  | name => .error (.unknownDistribution "requestdistribution" name)

inductive KeyChoice where
  | uniform (even : Uniform)
  | scrambled (scattered : Scrambled)
  | latest (recent : Latest)

namespace KeyChoice

/-- How many new keys a run of transactions is given room for: twice as many as it
is expected to insert. -/
def reserve (operations : UInt64) (insertProportion : Float) : UInt64 :=
  (operations.toFloat * insertProportion * 2).toUInt64

/-- A choice over the keys that are loaded, and with scattered popularity also over
those that the transactions will insert. -/
def make (distribution : RequestDistribution) (records : UInt64)
    (operations? : Option UInt64) (insertProportion : Float) (newest : UInt64) :
    Except Failure KeyChoice := do
  match distribution with
  | .uniform => return .uniform (← Uniform.between 0 (records - 1))
  | .zipfian =>
      let some operations := operations?
        | throw (.refused (.missingKey "operationcount"))
      let items ← checkedAdd records (reserve operations insertProportion)
      return .scrambled (← Scrambled.below items)
  | .latest => return .latest (← Latest.upTo newest)

def draw {σ : Type} [WordSource σ] (choice : KeyChoice) (newest : UInt64) (source : σ) :
    Except Crash (UInt64 × KeyChoice × σ) := do
  match choice with
  | .uniform even =>
      let (number, even, source) := even.draw source
      return (number, .uniform even, source)
  | .scrambled scattered =>
      let (number, scattered, source) ← scattered.draw source
      return (number, .scrambled scattered, source)
  | .latest recent =>
      let (number, recent, source) ← recent.draw newest source
      return (number, .latest recent, source)

end KeyChoice
end StoreBench
