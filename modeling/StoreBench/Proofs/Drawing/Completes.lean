import StoreBench.Proofs.Drawing.Ready
import StoreBench.Proofs.Drawing.WellFormed

namespace StoreBench

/-! An accepted workload never fails in use. The checks that it has passed make all of its choices
ready, and nothing that users do takes this away, as long as the frontier does not get past the
bound on item counts. So every call completes, whatever the calls before it and the words were. -/

namespace Workload

open Drawing

/-! ## Calls -/

/-- A call of a workload. Candidates are the numbers that are drawn for a target, of which those
past the frontier are dropped. -/
inductive Use where
  | record
  | oneField
  | number
  | key (number : UInt64)
  | operation
  | fieldName
  | scanLength
  | candidate
  | acknowledge (number : UInt64)

namespace Use

variable {σ : Type} [WordSource σ]

def perform : Use → Drawing σ (List String)
  | .record => do return (← drawRecord).map Prod.fst
  | .oneField => do return (← drawOneField).map Prod.fst
  | .number => do let _ ← nextNumber; return []
  | .key other => do let _ ← keyWith other; return []
  | .operation => do let _ ← drawOperation; return []
  | .fieldName => do return [← drawFieldName]
  | .scanLength => do let _ ← drawScanLength; return []
  | .candidate => do let _ ← drawNumber; return []
  | .acknowledge other => do
      let (workload, source) ← get
      let workload ← (workload.acknowledge other : Except Crash Workload)
      set (workload, source)
      return []

def performAll : List (Use × σ) → Workload → Except Crash (List String × Workload)
  | [], workload => .ok ([], workload)
  | (use, source) :: rest, workload => do
      let (names, workload, _) ← use.perform.run (workload, source)
      let (others, last) ← performAll rest workload
      return (names ++ others, last)

end Use

/-! ## States in use -/

variable {properties : Properties} {first before : Workload}

/-- A state of a workload in use: nothing but traces of draws, counters and the frontier have
changed, and the frontier is not beyond the bound. -/
structure Serving (first before : Workload) : Prop where
  idle : before.idle = first.idle
  last_le : first.frontier.last ≤ before.frontier.last
  last_lt : before.frontier.last < Zipfian.itemLimit

theorem Serving.of_idle {after : Workload} (serving : Serving first before)
    (idle : after.idle = before.idle) (frontier : after.frontier = before.frontier) :
    Serving first after :=
  ⟨idle.trans serving.idle, frontier ▸ serving.last_le, frontier ▸ serving.last_lt⟩

end Workload

namespace Drawing

open Workload (Serving)

variable {σ α β γ : Type} {first : Workload}

/-- In every state of use, a drawing completes with a value that has a property, and leads to
such a state. -/
def Completes (first : Workload) (property : α → Prop) (drawing : Drawing σ α) : Prop :=
  ∀ ⦃before : Workload⦄ (source : σ), Serving first before → ∃ value after rest,
    drawing.run (before, source) = .ok (value, after, rest) ∧ property value ∧
      Serving first after

theorem completes_pure {property : α → Prop} {value : α} (holds : property value) :
    Completes first property (pure value : Drawing σ α) :=
  fun before source serving => ⟨value, before, source, rfl, holds, serving⟩

theorem Completes.bind {between : α → Prop} {property : β → Prop} {start : Drawing σ α}
    {next : α → Drawing σ β} (completes : Completes first between start)
    (nextCompletes : ∀ value, between value → Completes first property (next value)) :
    Completes first property (start >>= next) := by
  intro before source serving
  rcases completes source serving with ⟨value, middle, words, startDrawn, holds, serving⟩
  rcases nextCompletes value holds words serving with ⟨result, after, rest, nextDrawn, whole⟩
  exact ⟨result, after, rest, run_bind_eq_ok_iff.mpr ⟨value, _, startDrawn, nextDrawn⟩, whole⟩

theorem completes_get : Completes first (fun state => Serving first state.1)
    (get : Drawing σ (Workload × σ)) :=
  fun _ _ serving => ⟨_, _, _, rfl, serving, serving⟩

theorem completes_of_map {drawing : Drawing σ α} {draw : Workload → σ → Except Crash γ}
    {result : Workload → γ → α × Workload × σ} (keeps : drawing.Keeps)
    (run : ∀ before source,
      drawing.run (before, source) = (draw before source).map (result before))
    (draws : ∀ before source, Serving first before → ∃ outcome, draw before source = .ok outcome) :
    Completes first (fun _ => True) drawing := by
  intro before source serving
  rcases draws before source serving with ⟨outcome, drawn⟩
  have done := run before source
  rw [drawn] at done
  have kept := keeps (show drawing.run (before, source) = .ok
    ((result before outcome).1, (result before outcome).2.1, (result before outcome).2.2) from done)
  exact ⟨_, _, _, done, trivial,
    serving.of_idle (Workload.idle_eq_of_bare kept) (Workload.frontier_eq_of_bare kept)⟩

/-- What completes with some value, and with no other values than those with a property. -/
theorem Completes.produces {property : α → Prop} {drawing : Drawing σ α}
    (completes : Completes first (fun _ => True) drawing)
    (produces : Produces first property drawing) : Completes first property drawing := by
  intro before source serving
  rcases completes source serving with ⟨value, after, rest, drawn, _, servingAfter⟩
  exact ⟨value, after, rest, drawn, (produces serving.idle drawn).1, servingAfter⟩

end Drawing

namespace Workload

open Drawing
open Properties (orDefault getNatural)

variable {properties : Properties} {first : Workload} {σ : Type}

theorem completes_nextNumber : Completes first (fun _ => True) (nextNumber (σ := σ)) :=
  fun before source serving =>
    ⟨_, _, _, run_nextNumber before source, trivial, serving.of_idle rfl rfl⟩

theorem completes_keyWith (number : UInt64) :
    Completes first (fun _ => True) (keyWith (σ := σ) number) :=
  completes_get.bind fun _ _ => completes_pure trivial

variable [WordSource σ]

/-! ## Single draws -/

theorem completes_drawValueLength (configured : Configured properties first) :
    Completes first first.valueLength.Admits (drawValueLength (σ := σ)) := by
  refine Completes.produces ?_ produces_drawValueLength
  apply completes_of_map drawValueLength_keeps run_drawValueLength
  intro before source serving
  have bare : before.valueLength.bare = first.valueLength.bare :=
    congrArg Workload.valueLength serving.idle
  rcases configured.valueLength with ⟨_, _, _, _, made⟩
  have ready := (LengthChoice.ready_bare first.valueLength).mpr (LengthChoice.ready_of_values made)
  rw [← bare, LengthChoice.ready_bare] at ready
  rcases ready.draw source with ⟨length, after, rest, drawn⟩
  exact ⟨_, drawn⟩

theorem completes_drawScanLength (configured : Configured properties first) :
    Completes first (fun _ => True) (drawScanLength (σ := σ)) := by
  apply completes_of_map drawScanLength_keeps run_drawScanLength
  intro before source serving
  have bare : before.scanLength.bare = first.scanLength.bare :=
    congrArg Workload.scanLength serving.idle
  rcases configured.scanLength with ⟨_, _, _, _, made⟩
  have ready := (LengthChoice.ready_bare first.scanLength).mpr (LengthChoice.ready_of_scans made)
  rw [← bare, LengthChoice.ready_bare] at ready
  rcases ready.draw source with ⟨length, after, rest, drawn⟩
  exact ⟨_, drawn⟩

theorem Configured.entries_ne_nil {before : Workload} (configured : Configured properties first)
    (same : before.idle = first.idle) : before.operations.entries ≠ [] := by
  rcases configured.proportions with ⟨proportions, _, mixed, _⟩
  rcases mixOf_eq_ok_iff.mp mixed with ⟨some, mix⟩
  rw [entries_eq_of_idle same, mix, Proportions.entries_mix]
  exact some

theorem completes_drawOperation (configured : Configured properties first) :
    Completes first (fun _ => True) (drawOperation (σ := σ)) := by
  apply completes_of_map drawOperation_keeps run_drawOperation
  intro before source serving
  rcases Weighted.exists_draw (configured.entries_ne_nil serving.idle) source with
    ⟨operation, after, rest, drawn⟩
  exact ⟨_, drawn⟩

theorem Configured.keys_ready (configured : Configured properties first) {newest : UInt64}
    (lower : first.frontier.last ≤ newest) (upper : newest < Zipfian.itemLimit) :
    first.keys.Ready newest := by
  rcases configured.proportions with ⟨proportions, _, _, made⟩
  cases distribution : first.requestDistribution with
  | uniform =>
      rw [distribution] at made
      rcases bind_eq_ok_iff.mp made with ⟨even, _, made⟩
      rw [← pure_eq_ok_iff.mp made]
      trivial
  | zipfian =>
      rcases configured.keys_scrambled distribution with ⟨scattered, keys, below⟩
      rw [keys]
      exact below
  | latest =>
      rw [distribution] at made
      rcases bind_eq_ok_iff.mp made with ⟨recent, recentMade, made⟩
      rcases bind_eq_ok_iff.mp (liftConfig_eq_ok_iff.mp recentMade) with ⟨ages, agesMade, aged⟩
      have below := Zipfian.below_of_ok agesMade
      have least := (Zipfian.supported_iff.mp below.support).1
      rw [← configured.frontier] at least
      rw [← pure_eq_ok_iff.mp made, ← pure_eq_ok_iff.mp aged]
      exact ⟨below.base, Zipfian.supported_iff.mpr ⟨UInt64.le_trans least lower, upper⟩⟩

theorem completes_drawNumber (configured : Configured properties first) :
    Completes first (fun _ => True) (drawNumber (σ := σ)) := by
  apply completes_of_map drawNumber_keeps run_drawNumber
  intro before source serving
  have bare : before.keys.bare = first.keys.bare := congrArg Workload.keys serving.idle
  have ready := (KeyChoice.ready_bare first.keys _).mpr
    (configured.keys_ready serving.last_le serving.last_lt)
  rw [← bare, KeyChoice.ready_bare] at ready
  rcases ready.draw source with ⟨number, after, rest, drawn⟩
  exact ⟨_, drawn⟩

theorem completes_drawFieldName (configured : Configured properties first) :
    Completes first (· ∈ first.fieldNames) (drawFieldName (σ := σ)) := by
  intro before source serving
  have kept := drawFieldName_keeps (run_drawFieldName before source)
  rcases (produces_drawFieldName configured serving.idle (run_drawFieldName before source)).1 with
    ⟨index, small, name⟩
  refine ⟨_, _, _, run_drawFieldName before source, ?_,
    serving.of_idle (idle_eq_of_bare kept) (frontier_eq_of_bare kept)⟩
  rw [name]
  exact List.mem_map_of_mem (List.mem_range.mpr small)

/-! ## Records -/

theorem toNat_of_getNatural {key : String} {number : UInt64}
    (read : getNatural properties key = .ok number) : number.toNat < 2 ^ 63 := by
  rcases bind_eq_ok_iff.mp read with ⟨signed, _, checked⟩
  split at checked
  next positive =>
    rw [← pure_eq_ok_iff.mp checked, Int64.toNat_toUInt64_of_le positive]
    exact signed.toNatClampNeg_lt
  next => cases checked

theorem Configured.valueLength_lt (configured : Configured properties first) {length : UInt64}
    (admits : first.valueLength.Admits length) : length.toNat < 2 ^ 63 := by
  rcases Sizes.exists_of configured with ⟨sizes, given⟩
  have greatest : sizes.greatestLength.toNat < 2 ^ 63 := by
    have read := given.greatestLength
    unfold orDefault at read
    split at read
    · exact toNat_of_getNatural read
    · rw [← Except.ok.inj read]
      decide
  have allowed := given.allows configured admits
  unfold Sizes.Allows at allowed
  split at allowed <;> omega

theorem completes_drawValue (configured : Configured properties first) :
    Completes first (fun _ => True) (drawValue (σ := σ)) := by
  apply (completes_drawValueLength configured).bind
  intro length admits
  show Completes first (fun _ => True) (drawText (σ := σ) length.toNat)
  intro before source serving
  rcases exists_drawPrintable (configured.valueLength_lt admits) source with ⟨text, rest, drawn⟩
  have done := run_drawText length.toNat before source
  rw [drawn] at done
  exact ⟨text, before, rest, done, trivial, serving⟩

theorem completes_drawValues (configured : Configured properties first) (names : List String) :
    Completes first (fun values => values.map Prod.fst = names) (drawValues (σ := σ) names) := by
  induction names with
  | nil => exact completes_pure rfl
  | cons name rest induction =>
      apply (completes_drawValue configured).bind
      intro value _
      apply induction.bind
      intro others named
      exact completes_pure (by rw [List.map_cons, named])

theorem completes_drawRecord (configured : Configured properties first) :
    Completes first (fun values => values.map Prod.fst = first.fieldNames)
      (drawRecord (σ := σ)) := by
  apply completes_get.bind
  intro state serving
  rw [toPlan_eq_of_idle serving.idle]
  exact completes_drawValues configured first.fieldNames

theorem completes_drawOneField (configured : Configured properties first) :
    Completes first (fun values => ∃ name ∈ first.fieldNames, values.map Prod.fst = [name])
      (drawOneField (σ := σ)) := by
  apply (completes_drawFieldName configured).bind
  intro name member before source serving
  rcases completes_drawValues configured [name] source serving with
    ⟨values, after, rest, drawn, named, servingAfter⟩
  exact ⟨values, after, rest, drawn, ⟨name, member, named⟩, servingAfter⟩

/-! ## All calls -/

def Use.acknowledged : Use → List UInt64
  | .acknowledge other => [other]
  | _ => []

theorem Use.completes (configured : Configured properties first) {use : Use}
    (draws : use.acknowledged = []) :
    Completes first (fun names => ∀ name ∈ names, name ∈ first.fieldNames)
      (use.perform (σ := σ)) := by
  have nothing {α : Type} {drawing : Drawing σ α}
      (completes : Completes first (fun _ => True) drawing) :
      Completes first (fun names => ∀ name ∈ names, name ∈ first.fieldNames)
        (do let _ ← drawing; return []) :=
    completes.bind fun _ _ => completes_pure (by simp)
  cases use with
  | record =>
      apply (completes_drawRecord configured).bind
      intro values named
      exact completes_pure fun name member => named ▸ member
  | oneField =>
      apply (completes_drawOneField configured).bind
      rintro values ⟨own, member, named⟩
      apply completes_pure
      rw [named]
      exact List.forall_mem_singleton.mpr member
  | fieldName =>
      apply (completes_drawFieldName configured).bind
      intro own member
      exact completes_pure (List.forall_mem_singleton.mpr member)
  | number => exact nothing completes_nextNumber
  | key other => exact nothing (completes_keyWith other)
  | operation => exact nothing (completes_drawOperation configured)
  | scanLength => exact nothing (completes_drawScanLength configured)
  | candidate => exact nothing (completes_drawNumber configured)
  | acknowledge other => cases draws

theorem Use.run_acknowledge (other : UInt64) (before : Workload) (source : σ) :
    (Use.acknowledge other).perform.run (before, source) =
      (before.acknowledge other).map fun after => ([], after, source) := by
  cases done : before.acknowledge other <;>
    simp only [perform, StateT.run_bind, StateT.run_get, pure_bind, done] <;> rfl

structure InService (first : Workload) (known : UInt64 → Prop) (before : Workload) : Prop where
  idle : before.idle = first.idle
  covers : Frontier.Covers first.recordCount known before.frontier

/-- The frontier is below the bound exactly if some number up to the bound is not known. -/
theorem InService.last_lt_iff {known : UInt64 → Prop} {before : Workload}
    (inService : InService first known before) (positive : 0 < first.recordCount) :
    before.frontier.last < Zipfian.itemLimit ↔
      ∃ gap ≤ Zipfian.itemLimit, first.recordCount ≤ gap ∧ ¬known gap := by
  have covers := inService.covers
  have numeric := Frontier.last_toNat (covers.positive positive)
  constructor
  · intro below
    refine ⟨before.frontier.limit.upcoming, ?_, covers.start_le, covers.upcoming_unknown⟩
    rw [UInt64.lt_iff_toNat_lt] at below
    rw [UInt64.le_iff_toNat_le]
    omega
  · rintro ⟨gap, small, lower, unknown⟩
    have least := covers.upcoming_le lower unknown
    rw [UInt64.le_iff_toNat_le] at small least
    rw [UInt64.lt_iff_toNat_lt]
    omega

theorem InService.serving {known : UInt64 → Prop} {before : Workload} {gap : UInt64}
    (inService : InService first known before) (configured : Configured properties first)
    (small : gap ≤ Zipfian.itemLimit) (lower : first.recordCount ≤ gap) (unknown : ¬known gap) :
    Serving first before where
  idle := inService.idle
  last_le := by
    rw [configured.frontier]
    exact (Frontier.covers_startingAt _).last_le inService.covers configured.recordCount_positive
      fun _ => False.elim
  last_lt :=
    (inService.last_lt_iff configured.recordCount_positive).mpr ⟨gap, small, lower, unknown⟩

theorem Use.keeps {before after : Workload} {use : Use} {source rest : σ} {names : List String}
    (draws : use.acknowledged = [])
    (done : use.perform.run (before, source) = .ok (names, after, rest)) :
    after.idle = before.idle ∧ after.frontier = before.frontier := by
  have of_keeps (keeps : (use.perform (σ := σ)).Keeps) :
      after.idle = before.idle ∧ after.frontier = before.frontier :=
    ⟨idle_eq_of_bare (keeps done), frontier_eq_of_bare (keeps done)⟩
  cases use with
  | number =>
      cases done
      exact ⟨rfl, rfl⟩
  | record => exact of_keeps (drawRecord_keeps.bind fun _ => keeps_pure _)
  | oneField => exact of_keeps (drawOneField_keeps.bind fun _ => keeps_pure _)
  | key other => exact of_keeps ((keeps_get.bind fun _ => keeps_pure _).bind fun _ => keeps_pure _)
  | operation => exact of_keeps (drawOperation_keeps.bind fun _ => keeps_pure _)
  | fieldName => exact of_keeps (drawFieldName_keeps.bind fun _ => keeps_pure _)
  | scanLength => exact of_keeps (drawScanLength_keeps.bind fun _ => keeps_pure _)
  | candidate => exact of_keeps (drawNumber_keeps.bind fun _ => keeps_pure _)
  | acknowledge other => cases draws

theorem InService.perform {known : UInt64 → Prop} {before after : Workload} {use : Use}
    {source rest : σ} {names : List String} (inService : InService first known before)
    (done : use.perform.run (before, source) = .ok (names, after, rest)) :
    InService first (fun number => known number ∨ number ∈ use.acknowledged) after := by
  by_cases draws : use.acknowledged = []
  · rcases use.keeps draws done with ⟨idle, frontier⟩
    refine ⟨idle.trans inService.idle, ?_⟩
    simpa [draws, frontier] using inService.covers
  · cases use with
    | acknowledge other =>
        rw [Use.run_acknowledge] at done
        cases step : before.acknowledge other with
        | error crash => simp [step, Except.map] at done
        | ok later =>
            simp only [step, Except.map, Except.ok.injEq] at done
            cases done
            rcases acknowledge_eq_ok_iff.mp step with ⟨frontier, acknowledged, rfl⟩
            refine ⟨inService.idle, ?_⟩
            simpa [Use.acknowledged] using inService.covers.acknowledge acknowledged
    | _ => exact absurd rfl draws

theorem InService.completes {known : UInt64 → Prop} {before : Workload} {use : Use} {gap : UInt64}
    (inService : InService first known before) (configured : Configured properties first)
    (small : gap ≤ Zipfian.itemLimit) (lower : first.recordCount ≤ gap) (unknown : ¬known gap)
    (different : gap ∉ use.acknowledged) (source : σ) :
    ∃ names after rest, use.perform.run (before, source) = .ok (names, after, rest) ∧
      ∀ name ∈ names, name ∈ first.fieldNames := by
  have serving := inService.serving configured small lower unknown
  by_cases draws : use.acknowledged = []
  · rcases use.completes configured draws source serving with
      ⟨names, after, rest, done, known, _⟩
    exact ⟨names, after, rest, done, known⟩
  · cases use with
    | acknowledge other =>
        rw [Use.acknowledged, List.mem_singleton] at different
        rcases inService.covers.acknowledge_succeeds lower unknown different with
          ⟨frontier, acknowledged⟩
        have done := acknowledge_eq_ok_iff.mpr ⟨frontier, acknowledged, rfl⟩
        exact ⟨[], _, source, by rw [Use.run_acknowledge, done]; rfl, by simp⟩
    | _ => exact absurd rfl draws

theorem InService.performAll {known : UInt64 → Prop} {before last : Workload}
    {calls : List (Use × σ)} {names : List String} (inService : InService first known before)
    (done : Use.performAll calls before = .ok (names, last)) :
    InService first
      (fun number => known number ∨ ∃ call ∈ calls, number ∈ call.1.acknowledged) last := by
  induction calls generalizing known before names with
  | nil =>
      cases done
      simpa using inService
  | cons call rest induction =>
      rcases bind_eq_ok_iff.mp done with ⟨⟨_, middle, _⟩, performed, done⟩
      rcases bind_eq_ok_iff.mp done with ⟨⟨others, _⟩, later, equal⟩
      cases equal
      simpa [or_assoc] using induction (inService.perform performed) later

theorem InService.completesAll {known : UInt64 → Prop} {before : Workload}
    {calls : List (Use × σ)} {gap : UInt64} (inService : InService first known before)
    (configured : Configured properties first) (small : gap ≤ Zipfian.itemLimit)
    (lower : first.recordCount ≤ gap) (unknown : ¬known gap)
    (left : ∀ call ∈ calls, gap ∉ call.1.acknowledged) :
    ∃ names last, Use.performAll calls before = .ok (names, last) ∧
      ∀ name ∈ names, name ∈ first.fieldNames := by
  induction calls generalizing known before with
  | nil => exact ⟨[], before, rfl, by simp⟩
  | cons call rest induction =>
      rw [List.forall_mem_cons] at left
      rcases inService.completes configured small lower unknown left.1 call.2 with
        ⟨names, after, words, performed, named⟩
      rcases induction (inService.perform performed) (not_or_intro unknown left.1) left.2 with
        ⟨others, last, done, othersNamed⟩
      refine ⟨names ++ others, last, ?_, ?_⟩
      · exact bind_eq_ok_iff.mpr ⟨_, performed, bind_eq_ok_iff.mpr ⟨_, done, rfl⟩⟩
      · exact fun name member => (List.mem_append.mp member).elim (named name) (othersNamed name)

theorem Serving.redrawLimit_of_drawTargetWithin {before : Workload} {draws : Nat} {source : σ}
    {crash : Crash} (serving : Serving first before) (configured : Configured properties first)
    (failed : (drawTargetWithin draws).run (before, source) = .error crash) :
    crash = .redrawLimit := by
  induction draws generalizing before source with
  | zero => exact (Except.error.inj failed).symm
  | succ draws induction =>
      rcases completes_drawNumber configured source serving with
        ⟨number, middle, words, drawn, _, servingMiddle⟩
      have next : (if number ≤ middle.frontier.last then pure number
          else drawTargetWithin draws : Drawing σ UInt64).run (middle, words) = .error crash := by
        rw [drawTargetWithin, StateT.run_bind, drawn] at failed
        exact failed
      split at next
      · cases next
      · exact induction servingMiddle next

/-- In every history of calls, with any words, that leaves a number up to the bound on item counts
unacknowledged, all calls complete. Then no field name is looked up that there is not, there is
an operation to choose, and no candidate for a target makes a draw fail. These are the histories
in which the frontier stays below the bound. -/
theorem performAll_completes (accepted : ofProperties properties = .ok first)
    (calls : List (Use × σ)) :
    ((∃ gap ≤ Zipfian.itemLimit, first.recordCount ≤ gap ∧
          ∀ source, (.acknowledge gap, source) ∉ calls) →
      ∃ names last, Use.performAll calls first = .ok (names, last) ∧
        (∀ name ∈ names, name ∈ first.fieldNames) ∧
        last.frontier.last < Zipfian.itemLimit ∧ last.operations.entries ≠ [] ∧
        ∀ (draws : Nat) (source : σ) (crash : Crash),
          (drawTargetWithin draws).run (last, source) = .error crash → crash = .redrawLimit) ∧
      ∀ names last, Use.performAll calls first = .ok (names, last) →
        last.frontier.last < Zipfian.itemLimit →
        ∃ gap ≤ Zipfian.itemLimit, first.recordCount ≤ gap ∧
          ∀ source, (.acknowledge gap, source) ∉ calls := by
  have configured := configured_of_ofProperties accepted
  have positive := configured.recordCount_positive
  have start : InService first (fun _ => False) first :=
    ⟨rfl, by rw [configured.frontier]; exact Frontier.covers_startingAt _⟩
  have missing (gap : UInt64) : (∀ source, (.acknowledge gap, source) ∉ calls) ↔
      ¬(False ∨ ∃ call ∈ calls, gap ∈ call.1.acknowledged) := by
    constructor
    · rintro absent (impossible | ⟨⟨use, source⟩, member, inside⟩)
      · exact impossible
      · cases use with
        | acknowledge other =>
            cases List.mem_singleton.mp inside
            exact absent source member
        | _ => cases inside
    · exact fun unknown source member =>
        unknown (.inr ⟨_, member, List.mem_singleton_self gap⟩)
  simp only [missing]
  constructor
  · rintro ⟨gap, small, lower, unknown⟩
    have left : ∀ call ∈ calls, gap ∉ call.1.acknowledged := by
      intro call member inside
      exact unknown (.inr ⟨call, member, inside⟩)
    rcases start.completesAll configured small lower id left with
      ⟨names, last, done, named⟩
    have serving := (start.performAll done).serving configured small lower unknown
    exact ⟨names, last, done, named, serving.last_lt, configured.entries_ne_nil serving.idle,
      fun draws source crash => serving.redrawLimit_of_drawTargetWithin configured⟩
  · intro names last done below
    exact ((start.performAll done).last_lt_iff positive).mp below

def newestOfThree : Properties where
  table := [("recordcount", .integer 3), ("requestdistribution", .text "latest"),
    ("field_len_dist", .text "zipfian")]

/-- Whatever the words are, targets are drawn before and after the fifth record is acknowledged
ahead of the fourth one. -/
theorem performAll_completes_newestOfThree :
    ∃ workload, ofProperties newestOfThree = .ok workload ∧
      ∀ words : Nat → UInt64, ∃ names last, Use.performAll
          [(.candidate, words), (.acknowledge 4, words), (.record, words), (.acknowledge 3, words),
            (.candidate, words)] workload = .ok (names, last) ∧
        last.frontier.last < Zipfian.itemLimit := by
  have computed : (ofProperties newestOfThree).toOption.map (fun workload =>
      workload.recordCount) = some 3 := by
    decide +kernel
  rcases Option.map_eq_some_iff.mp computed with ⟨workload, accepted, records⟩
  refine ⟨workload, toOption_eq_some_iff.mp accepted, fun words => ?_⟩
  rcases (performAll_completes (toOption_eq_some_iff.mp accepted)
    [(.candidate, words), (.acknowledge 4, words), (.record, words), (.acknowledge 3, words),
      (.candidate, words)]).1 ⟨5, by decide, by rw [records]; decide, by simp⟩ with
    ⟨names, last, done, _, below, _⟩
  exact ⟨names, last, done, below⟩

end Workload
end StoreBench
