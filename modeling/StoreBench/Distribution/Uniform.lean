import StoreBench.Config.Error
import StoreBench.Random.Sample

namespace StoreBench

/-! Every number between two bounds, both included, is as likely as any other. -/

structure Uniform where
  lower : UInt64
  upper : UInt64
  /-- The lower bound until the first draw. -/
  last : UInt64
  lower_le_upper : lower ≤ upper

namespace Uniform

def between (lower upper : UInt64) : Except ConfigError Uniform :=
  if ordered : lower ≤ upper then .ok ⟨lower, upper, lower, ordered⟩
  else .error (.outOfBounds "uniform lower bound" lower 0 upper)

def draw {σ : Type} [WordSource σ] (uniform : Uniform) (source : σ) :
    UInt64 × Uniform × σ :=
  let (value, source) := drawBetween uniform.lower uniform.upper source
  (value, { uniform with last := value }, source)

end Uniform
end StoreBench
