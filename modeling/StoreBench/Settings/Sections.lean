import StoreBench.Benchmark.Options
import StoreBench.Settings.Setting

namespace StoreBench

/-! The settings of a run come in three sections: the store, which must be there, the
benchmark and the workload. -/

structure Sections where
  storeName : String
  storeOptions : Toml.Table
  options : Options
  workload : Toml.Table

namespace Sections

def faultAt {α : Type} (path : List String) (origin : Origin) (cause : SettingsCause) :
    Except SettingsFault α :=
  .error (.placed path origin cause)

def refuse {α : Type} (path : List String) (setting : Setting) (wanted : String) :
    Except SettingsFault α :=
  faultAt path setting.origin (.wrongType setting.found wanted)

/-! ## Plain settings -/

def flag (path : List String) : Setting → Except SettingsFault Bool
  | .boolean _ flag => .ok flag
  | setting => refuse path setting "a boolean"

def content (path : List String) : Setting → Except SettingsFault String
  | .text _ content => .ok content
  | setting => refuse path setting "a string"

def natural (wanted : String) (path : List String) (setting : Setting) :
    Except SettingsFault Nat :=
  match setting with
  | .unsigned _ number => .ok number
  | .signed origin number =>
      if 0 ≤ number then .ok number.toNat
      else faultAt path origin (.wrongValue setting.found wanted)
  | _ => refuse path setting wanted

/-! ## The benchmark -/

def optionNames : List String := ["threads", "latency", "pin", "seed", "report", "skip_load"]

/-- Take note of one option, known by its name. The last part of its path may differ
from its name, if it stands in a list. -/
def setOption (name : String) (path : List String) (setting : Setting) (options : Options) :
    Except SettingsFault Options := do
  match name with
  | "threads" => return { options with threads? := some (← natural "usize" path setting) }
  | "latency" => return { options with latency? := some (← flag path setting) }
  | "pin" => return { options with pin? := some (← flag path setting) }
  | "seed" => return { options with seed? := some (.ofNat (← natural "u64" path setting)) }
  | "report" => return { options with report? := some (← content path setting) }
  | "skip_load" => return { options with skipLoad? := some (← flag path setting) }
  | _ => return options

def optionsOf (given : Setting) : Except SettingsFault Options :=
  match given with
  | .map _ entries => entries.foldlM (fun options (name, setting) =>
      setOption name ["benchmark", name] setting options) {}
  | .sequence origin items => do
      let named := (optionNames.zip items).zipIdx
      let options ← named.foldlM (fun options ((name, setting), index) =>
        setOption name ["benchmark", toString index] setting options) {}
      if items.length < optionNames.length then
        faultAt ["benchmark"] origin
          (.wrongLength items.length "struct BenchmarkOpt with 6 elements")
      else return options
  | setting => refuse ["benchmark"] setting "struct BenchmarkOpt"

/-! ## The store -/

/-- The name of the store, and what else its section says. A fault in the latter is
reported for the section as a whole. -/
def storeOf (given : Setting) : Except SettingsFault (String × Toml.Table) := do
  match given with
  | .map origin entries =>
      let name? ← match Entries.find? entries "name" with
        | some setting => (content ["store", "name"] setting).map some
        | none => pure none
      let some name := name?
        | faultAt ["store"] origin (.missingField "name")
      match Setting.toTable true ["store"] (entries.filter (·.1 != "name")) with
      | .ok options => return (name, options)
      | .error fault => faultAt ["store"] origin fault.cause
  | setting => refuse ["store"] setting "struct StoreOpt"

/-! ## The workload -/

def workloadOf (given : Setting) : Except SettingsFault Toml.Table :=
  match given with
  | .map _ entries => Setting.toTable false ["workload"] entries
  | setting => refuse ["workload"] setting "a map"

/-! ## All sections -/

def ofEntries (entries : Entries Setting) : Except SettingsFault Sections := do
  let options ← match Entries.find? entries "benchmark" with
    | some setting => optionsOf setting
    | none => pure {}
  let store? ← match Entries.find? entries "store" with
    | some setting => (storeOf setting).map some
    | none => pure none
  let workload ← match Entries.find? entries "workload" with
    | some setting => workloadOf setting
    | none => pure []
  let some (storeName, storeOptions) := store?
    | throw ⟨.missingField "store", none⟩
  return { storeName, storeOptions, options, workload }

def read (document : String) (above : Entries Setting) : Except SettingsFault Sections := do
  ofEntries (Setting.overlayEntries (← Setting.ofDocument document) above)

end Sections
end StoreBench
