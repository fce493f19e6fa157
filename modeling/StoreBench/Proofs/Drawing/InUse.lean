import StoreBench.Proofs.Drawing.Agreement

namespace StoreBench

/-! Workloads in use. A transaction is put together from what workers ask a workload for, so
all workloads in a run are reached from the first one by such requests. Wherever they lead, sums
stay exact, and nothing changes but traces, counters and the frontier. -/

namespace Drawing

variable {σ α β : Type}

def Leads (drawing : Drawing σ α) : Prop :=
  ∀ ⦃first before source value after rest⦄, Workload.Reached first before →
    drawing.run (before, source) = .ok (value, after, rest) → Workload.Reached first after

theorem leads_pure (value : α) : Leads (pure value : Drawing σ α) := by
  intro first before source result after rest reached drawn
  cases drawn
  exact reached

theorem leads_get : Leads (get : Drawing σ (Workload × σ)) := by
  intro first before source result after rest reached drawn
  cases drawn
  exact reached

theorem Leads.bind {start : Drawing σ α} {next : α → Drawing σ β} (startLeads : start.Leads)
    (nextLeads : ∀ value, (next value).Leads) : (start >>= next).Leads := by
  intro first before source result after rest reached drawn
  rcases run_bind_eq_ok_iff.mp drawn with ⟨value, ⟨middle, between⟩, startDrawn, nextDrawn⟩
  exact nextLeads value (startLeads reached startDrawn) nextDrawn

theorem leads_seen (make : Workload × σ → α) : Leads (do return make (← get) : Drawing σ α) :=
  leads_get.bind fun _ => leads_pure _

def Yields (property : α → Prop) (drawing : Drawing σ α) : Prop :=
  ∀ ⦃before source value after rest⦄, drawing.run (before, source) = .ok (value, after, rest) →
    property value

theorem yields_pure {property : α → Prop} {value : α} (holds : property value) :
    Yields property (pure value : Drawing σ α) := by
  intro before source result after rest drawn
  cases drawn
  exact holds

theorem Yields.bind {property : β → Prop} {start : Drawing σ α} {next : α → Drawing σ β}
    (yields : ∀ value, (next value).Yields property) : (start >>= next).Yields property := by
  intro before source result after rest drawn
  rcases run_bind_eq_ok_iff.mp drawn with ⟨value, ⟨middle, between⟩, _, nextDrawn⟩
  exact yields value nextDrawn

theorem Agree.exact {related : α → α → Prop} {drawing : Drawing σ α} {before after : Workload}
    {source rest : σ} {value : α} (agree : Agree related drawing drawing) (exact : before.Exact)
    (drawn : drawing.run (before, source) = .ok (value, after, rest)) : after.Exact := by
  rcases agree (.refl exact) drawn with ⟨_, _, _, _, alike⟩
  exact alike.exact

end Drawing

namespace Workload

open Drawing

/-! ## Transactions -/

section Transactions

variable {σ α : Type} [WordSource σ]

theorem Offered.leads {drawing : Drawing σ α} (offered : Offered drawing) : drawing.Leads :=
  fun _ _ _ _ _ _ reached drawn => reached.drew offered drawn

theorem leads_drawUpdate : (drawUpdate (σ := σ)).Leads := by
  apply leads_get.bind
  intro state
  split
  · exact Offered.record.leads
  · exact Offered.oneField.leads

theorem leads_drawWanted : (drawWanted (σ := σ)).Leads := by
  apply leads_get.bind
  intro state
  split
  · exact leads_pure _
  · exact Offered.fieldName.leads.bind fun _ => leads_pure _

theorem leads_numbered {next : UInt64 → String → Record → Drawing σ Transaction}
    (leads : ∀ number key values, (next number key values).Leads) :
    Leads (do
      let number ← nextNumber
      let key ← keyWith number
      next number key (← drawRecord)) := by
  apply Offered.number.leads.bind
  intro number
  apply (leads_seen _ : (keyWith number).Leads).bind
  intro key
  exact Offered.record.leads.bind fun values => leads number key values

theorem leads_aimed {next : String → Drawing σ Transaction} (leads : ∀ key, (next key).Leads) :
    Leads (do
      let key ← keyWith (← drawTarget)
      next key) := by
  apply Offered.target.leads.bind
  intro number
  exact (leads_seen _ : (keyWith number).Leads).bind leads

theorem leads_nextTransaction : (nextTransaction (σ := σ)).Leads := by
  apply Offered.operation.leads.bind
  intro operation
  cases operation with
  | insert => exact leads_numbered fun _ _ _ => leads_seen _
  | read => exact leads_aimed fun _ => leads_drawWanted.bind fun _ => leads_seen _
  | update => exact leads_aimed fun _ => leads_drawUpdate.bind fun _ => leads_seen _
  | scan =>
      apply leads_aimed
      intro key
      apply Offered.scanLength.leads.bind
      intro length
      exact leads_drawWanted.bind fun _ => leads_seen _
  | readModifyWrite =>
      apply leads_aimed
      intro key
      apply leads_drawWanted.bind
      intro fields
      exact leads_drawUpdate.bind fun _ => leads_seen _

theorem leads_drawing (phase : Phase) : (phase.drawing (σ := σ)).Leads := by
  cases phase with
  | load => exact leads_numbered fun _ _ _ => leads_seen _
  | transactions => exact leads_nextTransaction

theorem yields_nextInsert :
    (nextInsert (σ := σ)).Yields fun made => made.operation = .insert :=
  .bind fun _ => .bind fun _ => .bind fun _ => .bind fun _ => yields_pure rfl

theorem yields_nextRead :
    (nextRead (σ := σ)).Yields fun made => made.operation = .read :=
  .bind fun _ => .bind fun _ => .bind fun _ => .bind fun _ => yields_pure rfl

theorem yields_nextUpdate :
    (nextUpdate (σ := σ)).Yields fun made => made.operation = .update :=
  .bind fun _ => .bind fun _ => .bind fun _ => .bind fun _ => yields_pure rfl

theorem yields_nextScan :
    (nextScan (σ := σ)).Yields fun made => made.operation = .scan :=
  .bind fun _ => .bind fun _ => .bind fun _ => .bind fun _ => .bind fun _ => yields_pure rfl

theorem yields_nextReadModifyWrite :
    (nextReadModifyWrite (σ := σ)).Yields fun made => made.operation = .readModifyWrite :=
  .bind fun _ => .bind fun _ => .bind fun _ => .bind fun _ => .bind fun _ => yields_pure rfl

theorem mem_of_drawOperation {before after : Workload} {source rest : σ} {operation : Operation}
    (drawn : drawOperation.run (before, source) = .ok (operation, after, rest)) :
    operation ∈ before.operations.entries.map Prod.fst := by
  rw [run_drawOperation] at drawn
  cases step : before.operations.draw source with
  | error crash => simp [step, Except.map] at drawn
  | ok outcome =>
      simp only [step, Except.map, Except.ok.injEq] at drawn
      cases drawn
      exact Weighted.mem_of_draw step

theorem operation_of_nextTransaction {before after : Workload} {source rest : σ}
    {transaction : Transaction}
    (drawn : nextTransaction.run (before, source) = .ok (transaction, after, rest)) :
    transaction.operation ∈ before.operations.entries.map Prod.fst := by
  rcases run_bind_eq_ok_iff.mp drawn with ⟨operation, ⟨middle, between⟩, chosen, drawn⟩
  have same : transaction.operation = operation := by
    cases operation with
    | insert => exact yields_nextInsert drawn
    | read => exact yields_nextRead drawn
    | update => exact yields_nextUpdate drawn
    | scan => exact yields_nextScan drawn
    | readModifyWrite => exact yields_nextReadModifyWrite drawn
  rw [same]
  exact mem_of_drawOperation chosen

end Transactions

/-! ## What stays the same -/

section Reached

variable {σ α : Type} [WordSource σ] {first before after : Workload}

theorem idle_eq_of_bare (same : after.bare = before.bare) : after.idle = before.idle :=
  congrArg (fun workload : Workload =>
    { workload with keySequence := .startingAt 0, frontier := .startingAt 0 }) same

theorem entries_eq_of_idle (same : after.idle = before.idle) :
    after.operations.entries = before.operations.entries :=
  (congrArg (fun workload : Workload => workload.operations.entries) same :
    after.idle.operations.entries = before.idle.operations.entries)

theorem Offered.idle_eq {drawing : Drawing σ α} {source rest : σ} {value : α}
    (offered : Offered drawing)
    (drawn : drawing.run (before, source) = .ok (value, after, rest)) :
    after.idle = before.idle := by
  cases offered with
  | record => exact idle_eq_of_bare (drawRecord_keeps drawn)
  | oneField => exact idle_eq_of_bare (drawOneField_keeps drawn)
  | target => exact idle_eq_of_bare (drawTargetWithin_keeps redrawLimit drawn)
  | operation => exact idle_eq_of_bare (drawOperation_keeps drawn)
  | fieldName => exact idle_eq_of_bare (drawFieldName_keeps drawn)
  | scanLength => exact idle_eq_of_bare (drawScanLength_keeps drawn)
  | number =>
      cases drawn
      rfl

theorem Offered.exact {drawing : Drawing σ α} {source rest : σ} {value : α}
    (offered : Offered drawing) (exact : before.Exact)
    (drawn : drawing.run (before, source) = .ok (value, after, rest)) : after.Exact := by
  cases offered with
  | record => exact agree_drawRecord.exact exact drawn
  | oneField => exact agree_drawOneField.exact exact drawn
  | target => exact agree_drawTarget.exact exact drawn
  | operation => exact agree_drawOperation.exact exact drawn
  | fieldName => exact agree_drawFieldName.exact exact drawn
  | scanLength => exact agree_drawScanLength.exact exact drawn
  | number => exact agree_nextNumber.exact exact drawn

namespace Reached

theorem idle_eq (reached : Reached first after) : after.idle = first.idle := by
  induction reached with
  | start => rfl
  | drew earlier offered drawn induction => exact (offered.idle_eq drawn).trans induction
  | acknowledged earlier done induction =>
      rcases acknowledge_eq_ok_iff.mp done with ⟨frontier, _, rfl⟩
      exact induction

theorem exact (exact : first.Exact) (reached : Reached first after) : after.Exact := by
  induction reached with
  | start => exact exact
  | drew earlier offered drawn induction => exact offered.exact induction drawn
  | acknowledged earlier done induction =>
      rcases acknowledge_eq_ok_iff.mp done with ⟨frontier, _, rfl⟩
      exact { induction with }

theorem settle {transaction : Transaction} {status : Status} (reached : Reached first before)
    (settled : before.settle transaction status = .ok after) : Reached first after := by
  unfold Workload.settle at settled
  split at settled
  · split at settled
    · exact reached.acknowledged settled
    · cases settled
      exact reached
  · cases settled
    exact reached

theorem clear (fresh : first.frontier = .startingAt first.recordCount)
    (positive : 0 < first.recordCount) (clear : first.Clear) (reached : Reached first after) :
    after.Clear := by
  rcases clear with ⟨even, uniform, upper⟩
  have keys := reached.keys_eq
  rw [uniform] at keys
  cases chosen : after.keys with
  | scrambled | latest => simp [chosen, KeyChoice.bare] at keys
  | uniform current =>
      rw [chosen] at keys
      have same : current.upper = even.upper :=
        (congrArg Uniform.upper (KeyChoice.uniform.inj keys) : current.bare.upper = even.bare.upper)
      exact ⟨current, chosen, same ▸ UInt64.le_trans upper (reached.last_le fresh positive)⟩

end Reached
end Reached

end Workload

/-! ## Accepted workloads -/

theorem LengthChoice.exact_of_mostlyShort {greatest : UInt64} {choice : LengthChoice}
    (made : mostlyShort greatest = .ok choice) : choice.Exact := by
  cases ranked : Zipfian.between 1 greatest with
  | error fault => simp [mostlyShort, ranked, Except.map] at made
  | ok skewed =>
      simp only [mostlyShort, ranked, Except.map, Except.ok.injEq] at made
      rw [← made]
      exact (Zipfian.Made.between ranked).exact

theorem LengthChoice.exact_of_upTo {greatest : UInt64} {choice : LengthChoice}
    (made : upTo greatest = .ok choice) : choice.Exact := by
  cases ordered : Uniform.between 1 greatest with
  | error fault => simp [upTo, ordered, Except.map] at made
  | ok even =>
      simp only [upTo, ordered, Except.map, Except.ok.injEq] at made
      rw [← made]
      trivial

theorem LengthChoice.exact_of_values {name : String} {greatest : UInt64} {choice : LengthChoice}
    (made : ofValues name greatest = .ok choice) : choice.Exact := by
  unfold ofValues at made
  split at made
  · cases made
    trivial
  · exact exact_of_upTo made
  · exact exact_of_mostlyShort made
  · cases made

theorem LengthChoice.exact_of_scans {name : String} {greatest : UInt64} {choice : LengthChoice}
    (made : ofScans name greatest = .ok choice) : choice.Exact := by
  unfold ofScans at made
  split at made
  · exact exact_of_upTo made
  · exact exact_of_mostlyShort made
  · cases made

theorem KeyChoice.exact_of_make {distribution : RequestDistribution} {records : UInt64}
    {operations? : Option UInt64} {proportion : Float} {newest : UInt64} {choice : KeyChoice}
    (made : make distribution records operations? proportion newest = .ok choice) :
    choice.Exact := by
  cases distribution with
  | uniform =>
      rcases bind_eq_ok_iff.mp made with ⟨even, _, made⟩
      cases made
      trivial
  | zipfian =>
      dsimp only [make] at made
      split at made
      · rcases bind_eq_ok_iff.mp made with ⟨items, _, made⟩
        rcases bind_eq_ok_iff.mp made with ⟨scattered, _, made⟩
        cases made
        trivial
      · cases made
  | latest =>
      rcases bind_eq_ok_iff.mp made with ⟨recent, recentMade, made⟩
      rcases bind_eq_ok_iff.mp (liftConfig_eq_ok_iff.mp recentMade) with ⟨ages, agesMade, aged⟩
      cases aged
      cases made
      exact (Zipfian.Made.below agesMade).exact

/-- Scattered keys are those that are loaded and those that room is made for. -/
theorem KeyChoice.items_of_make {records operations newest : UInt64} {insert : Float}
    {keys : KeyChoice} (made : make .zipfian records (some operations) insert newest = .ok keys) :
    ∃ scattered, keys = .scrambled scattered ∧
      scattered.items.toNat = records.toNat + (reserve operations insert).toNat := by
  rcases bind_eq_ok_iff.mp made with ⟨items, added, made⟩
  rcases bind_eq_ok_iff.mp made with ⟨scattered, scatteredMade, made⟩
  have below := Scrambled.below_of_ok (liftConfig_eq_ok_iff.mp scatteredMade)
  refine ⟨scattered, (pure_eq_ok_iff.mp made).symm, ?_⟩
  rw [below.items]
  exact checkedAdd_eq_ok_iff.mp (liftCrash_eq_ok_iff.mp added)

theorem Proportions.entries_mix (proportions : Proportions) :
    proportions.mix.entries = proportions.positive := by
  have added (weights : List (Operation × Float)) (mix : Weighted Operation) :
      (weights.foldl (fun mix entry => mix.add entry.1 entry.2) mix).entries =
        mix.entries ++ weights := by
    induction weights generalizing mix with
    | nil => simp
    | cons entry rest induction =>
        rw [List.foldl_cons, induction]
        simp [Weighted.add]
  exact added proportions.positive .empty

theorem Workload.mixOf_eq_ok_iff {proportions : Proportions} {mix : Weighted Operation} :
    mixOf proportions = .ok mix ↔ proportions.positive ≠ [] ∧ mix = proportions.mix := by
  unfold mixOf
  split
  next empty => simp [List.isEmpty_iff.mp empty]
  next some =>
    rw [List.isEmpty_iff] at some
    simp [some, eq_comm]

namespace Workload.Configured

variable {properties : Properties} {workload : Workload}

theorem exact (configured : Configured properties workload) : workload.Exact := by
  rcases configured.valueLength with ⟨_, _, _, _, valueLength⟩
  rcases configured.scanLength with ⟨_, _, _, _, scanLength⟩
  rcases configured.proportions with ⟨_, _, _, keys⟩
  exact ⟨LengthChoice.exact_of_values valueLength, LengthChoice.exact_of_scans scanLength,
    KeyChoice.exact_of_make keys⟩

theorem clear (configured : Configured properties workload)
    (uniform : workload.requestDistribution = .uniform) : workload.Clear := by
  rcases configured.proportions with ⟨proportions, _, _, made⟩
  rw [uniform] at made
  rcases bind_eq_ok_iff.mp made with ⟨even, evenMade, made⟩
  have between := liftConfig_eq_ok_iff.mp evenMade
  unfold Uniform.between at between
  split at between
  · cases between
    refine ⟨_, (pure_eq_ok_iff.mp made).symm, ?_⟩
    rw [configured.frontier]
    exact UInt64.le_refl _
  · cases between

theorem insert_notMem {weight : Float} (configured : Configured properties workload)
    (read : Properties.orDefault Properties.getFloat properties "insertproportion" 0 = .ok weight)
    (notPositive : ¬0 < weight) : .insert ∉ workload.operations.entries.map Prod.fst := by
  rcases configured.proportions with ⟨proportions, proportionsRead, mixed, _⟩
  simp only [proportionsOf, bind_eq_ok_iff, pure_eq_ok_iff] at proportionsRead
  rcases proportionsRead with ⟨_, _, _, _, insert, insertRead, _, _, _, _, rfl⟩
  cases read.symm.trans insertRead
  rw [(mixOf_eq_ok_iff.mp mixed).2, Proportions.entries_mix]
  simp [Proportions.positive, Proportions.weights, notPositive]

end Workload.Configured
end StoreBench
