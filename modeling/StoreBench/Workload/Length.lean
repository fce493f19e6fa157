import StoreBench.Distribution.Uniform
import StoreBench.Distribution.Zipfian

namespace StoreBench

/-! How long values and scans are: always the same, or drawn from one up to the
greatest length. -/

inductive LengthChoice where
  | constant (length : UInt64)
  | uniform (even : Uniform)
  | zipfian (skewed : Zipfian)

namespace LengthChoice

def upTo (greatest : UInt64) : Except ConfigError LengthChoice :=
  (Uniform.between 1 greatest).map .uniform

def mostlyShort (greatest : UInt64) : Except ConfigError LengthChoice :=
  (Zipfian.between 1 greatest).map .zipfian

def ofValues (distribution : String) (greatest : UInt64) : Except ConfigError LengthChoice :=
  match distribution with
  | "constant" => .ok (.constant greatest)
  | "uniform" => upTo greatest
  | "zipfian" => mostlyShort greatest
  | name => .error (.unknownDistribution "field_len_dist" name)

def ofScans (distribution : String) (greatest : UInt64) : Except ConfigError LengthChoice :=
  match distribution with
  | "uniform" => upTo greatest
  | "zipfian" => mostlyShort greatest
  | name => .error (.unknownDistribution "scanlengthdistribution" name)

def draw {σ : Type} [WordSource σ] (choice : LengthChoice) (source : σ) :
    Except Crash (UInt64 × LengthChoice × σ) :=
  match choice with
  | .constant length => .ok (length, choice, source)
  | .uniform even =>
      let (length, even, source) := even.draw source
      .ok (length, .uniform even, source)
  | .zipfian skewed => do
      let (length, skewed, source) ← skewed.draw source
      return (length, .zipfian skewed, source)

end LengthChoice
end StoreBench
