import StoreBench.Proofs.Drawing.Choices
import StoreBench.Workload.Transaction

namespace StoreBench

/-! What a drawing leaves as it was. All that draws change in a workload are the traces in
its choices, so the bare workload stays the same: its plan, both of its counters and the
bounds of its choices. Only handing out a number moves one of the counters. -/

namespace Workload

/-- A workload without the traces of draws. -/
def bare (workload : Workload) : Workload :=
  { workload with
    valueLength := workload.valueLength.bare
    scanLength := workload.scanLength.bare
    operations := workload.operations.bare
    keys := workload.keys.bare
    fields := workload.fields.bare }

theorem toPlan_eq_of_bare {before after : Workload} (same : after.bare = before.bare) :
    after.toPlan = before.toPlan :=
  (congrArg Workload.toPlan same : after.bare.toPlan = before.bare.toPlan)

theorem frontier_eq_of_bare {before after : Workload} (same : after.bare = before.bare) :
    after.frontier = before.frontier :=
  (congrArg Workload.frontier same : after.bare.frontier = before.bare.frontier)

theorem keySequence_eq_of_bare {before after : Workload} (same : after.bare = before.bare) :
    after.keySequence = before.keySequence :=
  (congrArg Workload.keySequence same : after.bare.keySequence = before.bare.keySequence)

theorem acknowledge_eq_ok_iff {before after : Workload} {number : UInt64} :
    before.acknowledge number = .ok after ↔
      ∃ frontier, before.frontier.acknowledge number = .ok frontier ∧
        after = { before with frontier } := by
  simp only [acknowledge, bind_eq_ok_iff, pure_eq_ok_iff]
  exact exists_congr fun frontier => and_congr_right' eq_comm

end Workload

variable {σ α β : Type}

namespace Drawing

theorem run_bind_eq_ok_iff {first : Drawing σ α} {next : α → Drawing σ β}
    {state : Workload × σ} {result : β × Workload × σ} :
    (first >>= next).run state = .ok result ↔
      ∃ value between, first.run state = .ok (value, between) ∧
        (next value).run between = .ok result := by
  rw [StateT.run_bind, bind_eq_ok_iff]
  exact ⟨fun ⟨⟨value, between⟩, parts⟩ => ⟨value, between, parts⟩,
    fun ⟨value, between, parts⟩ => ⟨(value, between), parts⟩⟩

def Keeps (drawing : Drawing σ α) : Prop :=
  ∀ ⦃before source value after rest⦄,
    drawing.run (before, source) = .ok (value, after, rest) → after.bare = before.bare

theorem keeps_pure (value : α) : Keeps (pure value : Drawing σ α) := by
  intro before source result after rest drawn
  cases drawn
  rfl

theorem keeps_get : Keeps (get : Drawing σ (Workload × σ)) := by
  intro before source result after rest drawn
  cases drawn
  rfl

theorem Keeps.bind {first : Drawing σ α} {next : α → Drawing σ β} (firstKeeps : first.Keeps)
    (nextKeeps : ∀ value, (next value).Keeps) : (first >>= next).Keeps := by
  intro before source result after rest drawn
  rcases run_bind_eq_ok_iff.mp drawn with ⟨value, ⟨middle, between⟩, firstDrawn, nextDrawn⟩
  exact (nextKeeps value nextDrawn).trans (firstKeeps firstDrawn)

theorem keeps_of_map {γ : Type} {drawing : Drawing σ α} {draw : Workload → σ → Except Crash γ}
    {result : Workload → γ → α × Workload × σ}
    (run : ∀ before source,
      drawing.run (before, source) = (draw before source).map (result before))
    (bare : ∀ before source drawn, draw before source = .ok drawn →
      (result before drawn).2.1.bare = before.bare) : Keeps drawing := by
  intro before source value after rest drawn
  rw [run] at drawn
  cases step : draw before source with
  | error crash => simp [step, Except.map] at drawn
  | ok outcome =>
      simp only [step, Except.map, Except.ok.injEq] at drawn
      simpa [drawn] using bare before source outcome step

end Drawing

namespace Workload

open Drawing

/-! ## Single draws -/

theorem run_nextNumber (before : Workload) (source : σ) :
    nextNumber.run (before, source) =
      .ok (before.keySequence.next.1,
        { before with keySequence := before.keySequence.next.2 }, source) := rfl

variable [WordSource σ]

theorem run_drawValueLength (before : Workload) (source : σ) :
    drawValueLength.run (before, source) =
      (before.valueLength.draw source).map fun (length, valueLength, rest) =>
        (length, { before with valueLength }, rest) := by
  cases drawn : before.valueLength.draw source <;>
    simp only [drawValueLength, StateT.run_bind, StateT.run_get, pure_bind, drawn] <;> rfl

theorem run_drawScanLength (before : Workload) (source : σ) :
    drawScanLength.run (before, source) =
      (before.scanLength.draw source).map fun (length, scanLength, rest) =>
        (length, { before with scanLength }, rest) := by
  cases drawn : before.scanLength.draw source <;>
    simp only [drawScanLength, StateT.run_bind, StateT.run_get, pure_bind, drawn] <;> rfl

theorem run_drawOperation (before : Workload) (source : σ) :
    drawOperation.run (before, source) =
      (before.operations.draw source).map fun (operation, operations, rest) =>
        (operation, { before with operations }, rest) := by
  cases drawn : before.operations.draw source <;>
    simp only [drawOperation, StateT.run_bind, StateT.run_get, pure_bind, drawn] <;> rfl

theorem run_drawNumber (before : Workload) (source : σ) :
    drawNumber.run (before, source) =
      (before.keys.draw before.frontier.last source).map fun (number, keys, rest) =>
        (number, { before with keys }, rest) := by
  cases drawn : before.keys.draw before.frontier.last source <;>
    simp only [drawNumber, StateT.run_bind, StateT.run_get, pure_bind, drawn] <;> rfl

theorem run_drawNumber_eq_ok_iff {before after : Workload} {source rest : σ}
    {number : UInt64} :
    drawNumber.run (before, source) = .ok (number, after, rest) ↔
      ∃ keys, before.keys.draw before.frontier.last source = .ok (number, keys, rest) ∧
        after = { before with keys } := by
  rw [run_drawNumber]
  cases drawn : before.keys.draw before.frontier.last source with
  | error crash => simp [Except.map]
  | ok result =>
      rcases result with ⟨chosen, keys, words⟩
      simp only [Except.map, Except.ok.injEq, Prod.mk.injEq]
      constructor
      · intro same
        rcases same with ⟨rfl, rfl, rfl⟩
        exact ⟨keys, ⟨rfl, rfl, rfl⟩, rfl⟩
      · intro same
        rcases same with ⟨_, ⟨rfl, rfl, rfl⟩, rfl⟩
        exact ⟨rfl, rfl, rfl⟩

theorem run_drawFieldName (before : Workload) (source : σ) :
    drawFieldName.run (before, source) =
      .ok (Plan.fieldName (before.fields.draw source).1.toNat,
        { before with fields := (before.fields.draw source).2.1 },
        (before.fields.draw source).2.2) := rfl

theorem drawValueLength_keeps : (drawValueLength (σ := σ)).Keeps := by
  apply keeps_of_map run_drawValueLength
  intro before source tuned drawn
  rcases tuned with ⟨length, valueLength, rest⟩
  simp [bare, LengthChoice.bare_draw drawn]

theorem drawScanLength_keeps : (drawScanLength (σ := σ)).Keeps := by
  apply keeps_of_map run_drawScanLength
  intro before source tuned drawn
  rcases tuned with ⟨length, scanLength, rest⟩
  simp [bare, LengthChoice.bare_draw drawn]

theorem drawOperation_keeps : (drawOperation (σ := σ)).Keeps := by
  apply keeps_of_map run_drawOperation
  intro before source tuned drawn
  rcases tuned with ⟨operation, operations, rest⟩
  simp [bare, Weighted.bare_draw drawn]

theorem drawNumber_keeps : (drawNumber (σ := σ)).Keeps := by
  apply keeps_of_map run_drawNumber
  intro before source tuned drawn
  rcases tuned with ⟨number, keys, rest⟩
  simp [bare, KeyChoice.bare_draw drawn]

theorem drawFieldName_keeps : (drawFieldName (σ := σ)).Keeps := by
  intro before source name after rest drawn
  rw [run_drawFieldName] at drawn
  simp only [Except.ok.injEq, Prod.mk.injEq] at drawn
  simp [← drawn.2.1, bare]

/-! ## Records -/

theorem drawValue_keeps : (drawValue (σ := σ)).Keeps := by
  apply drawValueLength_keeps.bind
  intro length before source value after rest drawn
  simp only [StateT.run_bind, StateT.run_get, pure_bind, bind_eq_ok_iff] at drawn
  rcases drawn with ⟨⟨⟨text, source⟩, _⟩, printed, _, kept, returned⟩
  cases kept
  cases returned
  rfl

theorem drawValues_keeps (names : List String) : (drawValues (σ := σ) names).Keeps := by
  induction names with
  | nil => exact keeps_pure _
  | cons name rest induction =>
      exact drawValue_keeps.bind fun _ => induction.bind fun _ => keeps_pure _

theorem drawRecord_keeps : (drawRecord (σ := σ)).Keeps :=
  keeps_get.bind fun _ => drawValues_keeps _

theorem drawOneField_keeps : (drawOneField (σ := σ)).Keeps :=
  drawFieldName_keeps.bind fun _ => drawValues_keeps _

theorem drawUpdate_keeps : (drawUpdate (σ := σ)).Keeps := by
  apply keeps_get.bind
  intro state
  split
  · exact drawRecord_keeps
  · exact drawOneField_keeps

theorem drawWanted_keeps : (drawWanted (σ := σ)).Keeps := by
  apply keeps_get.bind
  intro state
  split
  · exact keeps_pure _
  · exact drawFieldName_keeps.bind fun _ => keeps_pure _

/-! ## Targets -/

theorem drawTargetWithin_keeps (draws : Nat) : (drawTargetWithin (σ := σ) draws).Keeps := by
  induction draws with
  | zero =>
      intro before source number after rest drawn
      cases drawn
  | succ draws induction =>
      apply drawNumber_keeps.bind
      intro number
      apply keeps_get.bind
      intro state
      split
      · exact keeps_pure _
      · exact induction

theorem le_last_of_drawTargetWithin {draws : Nat} {before after : Workload}
    {source rest : σ} {number : UInt64}
    (drawn : (drawTargetWithin draws).run (before, source) = .ok (number, after, rest)) :
    number ≤ before.frontier.last := by
  induction draws generalizing before source with
  | zero => cases drawn
  | succ draws induction =>
      rcases run_bind_eq_ok_iff.mp drawn with ⟨candidate, ⟨middle, between⟩, first, others⟩
      have same := frontier_eq_of_bare (drawNumber_keeps first)
      rcases run_bind_eq_ok_iff.mp others with ⟨state, _, reached, others⟩
      cases reached
      split at others
      · rename_i accepted
        cases others
        exact same ▸ accepted
      · exact same ▸ induction others

end Workload
end StoreBench
