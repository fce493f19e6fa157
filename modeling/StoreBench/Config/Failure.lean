import StoreBench.Config.Error
import StoreBench.Crash

namespace StoreBench

/-! Two ways in which a benchmark may fail to be set up: the configuration is
refused, or word arithmetic on its numbers leaves its range. -/

inductive Failure where
  | refused (error : ConfigError)
  | crashed (crash : Crash)

namespace Failure

instance : MonadLift (Except ConfigError) (Except Failure) :=
  ⟨fun result => result.mapError .refused⟩

instance : MonadLift (Except Crash) (Except Failure) :=
  ⟨fun result => result.mapError .crashed⟩

end Failure
end StoreBench
