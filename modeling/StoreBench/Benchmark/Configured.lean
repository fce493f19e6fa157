import StoreBench.Benchmark.Run
import StoreBench.Settings.Environment
import StoreBench.Settings.Sections
import StoreBench.Store.Registry
import StoreBench.Workload.Configured

namespace StoreBench

/-! The run that settings describe. The settings themselves are checked first, then
the options of the benchmark, the workload and the store. -/

namespace Run

def properties (workload : Toml.Table) (overrides : List (String × String)) : Properties :=
  overrides.foldl (fun properties (key, value) => properties.set key (.text value)) ⟨workload⟩

def configured (document : String) (environment : Environment) (overrides : Options)
    (propertyOverrides : List (String × String)) : Except Failure (Run Store) := do
  let above ← environment.settings
  let sections ← (Sections.read document above).mapError fun fault =>
    Failure.refused (.settings fault)
  let benchmark ← Benchmark.ofOptions (overrides.override sections.options)
  let workload ← Workload.ofProperties (properties sections.workload propertyOverrides)
  let store ← Store.ofName sections.storeName sections.storeOptions
  return { storeName := sections.storeName, benchmark, world := ⟨workload, store⟩ }

end Run
end StoreBench
