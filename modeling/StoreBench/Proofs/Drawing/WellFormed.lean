import StoreBench.Proofs.Drawing.Bounds

namespace StoreBench

/-! Calls as they have to be. Every choice of a workload draws within the bounds that the
properties ask for. So whatever a worker draws, from a workload in any state of use, becomes
calls to the configured table, under the keys of numbers, with the fields, values and counts that
the properties allow. -/

/-! ## Parts of calls -/

open Properties (orDefault getText getNatural)

structure Sizes where
  lengths : String
  greatestLength : UInt64
  greatestScan : UInt64

namespace Sizes

structure Of (properties : Properties) (sizes : Sizes) : Prop where
  lengths : orDefault getText properties "field_len_dist" "constant" = .ok sizes.lengths
  greatestLength : orDefault getNatural properties "fieldlength" 100 = .ok sizes.greatestLength
  greatestScan : orDefault getNatural properties "maxscanlength" 1000 = .ok sizes.greatestScan

def Allows (sizes : Sizes) (length : Nat) : Prop :=
  if sizes.lengths = "constant" then length = sizes.greatestLength.toNat
  else 1 ≤ length ∧ length ≤ sizes.greatestLength.toNat

structure Fits (sizes : Sizes) (value : String) : Prop where
  printable : ∀ character ∈ value.toList, 33 ≤ character.toNat ∧ character.toNat ≤ 126
  length : sizes.Allows value.length

variable {properties : Properties} {workload : Workload} {sizes : Sizes} {length : UInt64}

theorem exists_of (configured : Workload.Configured properties workload) :
    ∃ sizes : Sizes, sizes.Of properties := by
  rcases configured.valueLength with ⟨length, lengths, lengthRead, lengthsRead, _⟩
  rcases configured.scanLength with ⟨scan, _, scanRead, _⟩
  exact ⟨⟨lengths, length, scan⟩, lengthsRead, lengthRead, scanRead⟩

theorem Of.allows (given : sizes.Of properties)
    (configured : Workload.Configured properties workload)
    (admits : workload.valueLength.Admits length) : sizes.Allows length.toNat := by
  rcases configured.valueLength with ⟨greatest, name, greatestRead, nameRead, made⟩
  cases given.greatestLength.symm.trans greatestRead
  cases given.lengths.symm.trans nameRead
  unfold Allows
  unfold LengthChoice.ofValues at made
  split at made
  next constant =>
    rw [← Except.ok.inj made] at admits
    rw [if_pos constant, show length = sizes.greatestLength from admits]
  next uniform =>
    rw [if_neg (by rw [uniform]; decide)]
    exact LengthChoice.le_of_upTo made admits
  next zipfian =>
    rw [if_neg (by rw [zipfian]; decide)]
    exact LengthChoice.le_of_mostlyShort made admits
  next => cases made

theorem Of.scan (given : sizes.Of properties)
    (configured : Workload.Configured properties workload)
    (admits : workload.scanLength.Admits length) :
    1 ≤ length.toNat ∧ length.toNat ≤ sizes.greatestScan.toNat := by
  rcases configured.scanLength with ⟨greatest, name, greatestRead, _, made⟩
  cases given.greatestScan.symm.trans greatestRead
  unfold LengthChoice.ofScans at made
  split at made
  · exact LengthChoice.le_of_upTo made admits
  · exact LengthChoice.le_of_mostlyShort made admits
  · cases made

end Sizes

namespace Plan

def Wants (plan : Plan) (fields : List String) : Prop :=
  if plan.readAllFields then fields = []
  else ∃ index < plan.fieldCount.toNat, fields = [fieldName index]

structure Whole (plan : Plan) (sizes : Sizes) (values : Record) : Prop where
  names : values.map Prod.fst = plan.fieldNames
  fits : ∀ field ∈ values, sizes.Fits field.2

def Writes (plan : Plan) (sizes : Sizes) (values : Record) : Prop :=
  if plan.writeAllFields then plan.Whole sizes values
  else ∃ index < plan.fieldCount.toNat, ∃ value, sizes.Fits value ∧
    values = [(fieldName index, value)]

end Plan

namespace Request

/-- The table of a request, and its key, which has a number. Only an insert may be about a number
past the last one that is known. -/
def Addressed (plan : Plan) (last : UInt64) : Request → Prop
  | .insert table key _ => table = plan.table ∧ ∃ number, key = plan.keyName number
  | .read table key _ | .scan table key _ _ | .update table key _ | .delete table key =>
      table = plan.table ∧ ∃ number ≤ last, key = plan.keyName number

/-- The fields, the values and the count of a request. No worker deletes anything. -/
def Filled (plan : Plan) (sizes : Sizes) : Request → Prop
  | .insert _ _ values => plan.Whole sizes values
  | .read _ _ fields => plan.Wants fields
  | .update _ _ values => plan.Writes sizes values
  | .scan _ _ count fields =>
      1 ≤ count ∧ count ≤ sizes.greatestScan.toNat ∧ plan.Wants fields
  | .delete .. => False

structure WellFormed (plan : Plan) (sizes : Sizes) (last : UInt64) (request : Request) : Prop where
  addressed : request.Addressed plan last
  filled : request.Filled plan sizes

end Request

/-! ## Drawings -/

namespace Drawing

variable {σ α β γ : Type} {first : Workload}

/-- From any state of a workload in use, a drawing leads to no other values than those with a
property. -/
def Produces (first : Workload) (property : α → Prop) (drawing : Drawing σ α) : Prop :=
  ∀ ⦃before source value after rest⦄, before.idle = first.idle →
    drawing.run (before, source) = .ok (value, after, rest) →
    property value ∧ after.idle = first.idle

theorem produces_pure {property : α → Prop} {value : α} (holds : property value) :
    Produces first property (pure value : Drawing σ α) := by
  intro before source result after rest same drawn
  cases drawn
  exact ⟨holds, same⟩

theorem produces_get : Produces first (fun state => state.1.idle = first.idle)
    (get : Drawing σ (Workload × σ)) := by
  intro before source result after rest same drawn
  cases drawn
  exact ⟨same, same⟩

theorem Produces.bind {between : α → Prop} {property : β → Prop} {start : Drawing σ α}
    {next : α → Drawing σ β} (produces : Produces first between start)
    (nextProduces : ∀ value, between value → Produces first property (next value)) :
    Produces first property (start >>= next) := by
  intro before source result after rest same drawn
  rcases run_bind_eq_ok_iff.mp drawn with ⟨value, ⟨middle, words⟩, startDrawn, nextDrawn⟩
  rcases produces same startDrawn with ⟨holds, sameMiddle⟩
  exact nextProduces value holds sameMiddle nextDrawn

theorem produces_seen {property : α → Prop} {make : Workload × σ → α}
    (holds : ∀ state, property (make state)) :
    Produces first property (do return make (← get) : Drawing σ α) :=
  produces_get.bind fun state _ => produces_pure (holds state)

theorem Keeps.produces {property : α → Prop} {drawing : Drawing σ α} (keeps : drawing.Keeps)
    (holds : ∀ ⦃before source value after rest⦄, before.idle = first.idle →
      drawing.run (before, source) = .ok (value, after, rest) → property value) :
    Produces first property drawing := by
  intro before source value after rest same drawn
  exact ⟨holds same drawn, (Workload.idle_eq_of_bare (keeps drawn)).trans same⟩

theorem Keeps.produces_of_map {property : α → Prop} {drawing : Drawing σ α}
    {draw : Workload → σ → Except Crash γ} {result : Workload → γ → α × Workload × σ}
    (keeps : drawing.Keeps)
    (run : ∀ before source,
      drawing.run (before, source) = (draw before source).map (result before))
    (holds : ∀ before source drawn, before.idle = first.idle → draw before source = .ok drawn →
      property (result before drawn).1) : Produces first property drawing := by
  apply keeps.produces
  intro before source value after rest same drawn
  rw [run] at drawn
  cases step : draw before source with
  | error crash => simp [step, Except.map] at drawn
  | ok outcome =>
      simp only [step, Except.map, Except.ok.injEq] at drawn
      have holds := holds before source outcome same step
      rwa [drawn] at holds

end Drawing

namespace Workload

open Drawing

variable {σ : Type} {properties : Properties} {first : Workload} {sizes : Sizes}

theorem toPlan_eq_of_idle {before : Workload} (same : before.idle = first.idle) :
    before.toPlan = first.toPlan :=
  (congrArg Workload.toPlan same : before.idle.toPlan = first.idle.toPlan)

theorem produces_keyWith (number : UInt64) :
    Produces first (fun _ => True) (keyWith (σ := σ) number) :=
  produces_seen fun _ => trivial

variable [WordSource σ]

theorem produces_drawValueLength :
    Produces first first.valueLength.Admits (drawValueLength (σ := σ)) := by
  apply drawValueLength_keeps.produces_of_map run_drawValueLength
  rintro before source ⟨length, valueLength, rest⟩ same tuned
  exact LengthChoice.admits_of_draw_of_bare (congrArg Workload.valueLength same) tuned

theorem produces_drawScanLength :
    Produces first first.scanLength.Admits (drawScanLength (σ := σ)) := by
  apply drawScanLength_keeps.produces_of_map run_drawScanLength
  rintro before source ⟨length, scanLength, rest⟩ same tuned
  exact LengthChoice.admits_of_draw_of_bare (congrArg Workload.scanLength same) tuned

theorem Configured.fields_upper (configured : Configured properties first) :
    first.fields.upper = first.fieldCount - 1 := by
  have made := configured.fields
  unfold Uniform.between at made
  split at made
  · rw [← Except.ok.inj made]
  · cases made

theorem produces_drawFieldName (configured : Configured properties first) :
    Produces first (fun name => ∃ index < first.fieldCount.toNat, name = Plan.fieldName index)
      (drawFieldName (σ := σ)) := by
  apply drawFieldName_keeps.produces
  intro before source name after rest same drawn
  cases drawn
  refine ⟨(before.fields.draw source).1.toNat, ?_, rfl⟩
  have choice : before.fields.bare = first.fields.bare := congrArg Workload.fields same
  have upper : before.fields.upper = first.fields.upper :=
    (congrArg Uniform.upper choice : before.fields.bare.upper = first.fields.bare.upper)
  have most : (before.fields.draw source).1 ≤ before.fields.upper :=
    (drawBetween_mem before.fields.lower_le_upper source).2
  have positive := UInt64.pos_iff_ne_zero.mpr configured.fieldCount_ne_zero
  rw [UInt64.lt_iff_toNat_lt, UInt64.toNat_zero] at positive
  have one : 1 ≤ first.fieldCount := UInt64.le_iff_toNat_le.mpr positive
  rw [upper, configured.fields_upper, UInt64.le_iff_toNat_le, UInt64.toNat_sub_of_le _ _ one,
    UInt64.toNat_one] at most
  omega

/-! ## Records -/

theorem produces_drawValue (configured : Configured properties first)
    (given : sizes.Of properties) : Produces first sizes.Fits (drawValue (σ := σ)) := by
  apply produces_drawValueLength.bind
  intro length admits before source value after rest same drawn
  have run : (drawText length.toNat).run (before, source) = .ok (value, after, rest) := drawn
  rw [run_drawText] at run
  cases printed : drawPrintable length.toNat source with
  | error crash => simp [printed, Except.map] at run
  | ok result =>
      simp only [printed, Except.map, Except.ok.injEq] at run
      cases run
      rcases text_of_drawPrintable printed with ⟨sameLength, printable⟩
      exact ⟨⟨printable, sameLength ▸ given.allows configured admits⟩, same⟩

theorem produces_drawValues (configured : Configured properties first)
    (given : sizes.Of properties) (names : List String) :
    Produces first
      (fun values => values.map Prod.fst = names ∧ ∀ field ∈ values, sizes.Fits field.2)
      (drawValues (σ := σ) names) := by
  induction names with
  | nil => exact produces_pure ⟨rfl, by simp⟩
  | cons name rest induction =>
      apply (produces_drawValue configured given).bind
      intro value fits
      apply induction.bind
      rintro others ⟨names, allFit⟩
      apply produces_pure
      refine ⟨by rw [List.map_cons, names], ?_⟩
      exact List.forall_mem_cons.mpr ⟨fits, allFit⟩

theorem produces_drawRecord (configured : Configured properties first)
    (given : sizes.Of properties) :
    Produces first (first.Whole sizes) (drawRecord (σ := σ)) := by
  apply produces_get.bind
  intro state same
  rw [toPlan_eq_of_idle same]
  intro before source values after rest sameBefore drawn
  rcases produces_drawValues configured given _ sameBefore drawn with ⟨⟨names, fits⟩, sameAfter⟩
  exact ⟨⟨names, fits⟩, sameAfter⟩

theorem produces_drawOneField (configured : Configured properties first)
    (given : sizes.Of properties) :
    Produces first
      (fun values => ∃ index < first.fieldCount.toNat, ∃ value, sizes.Fits value ∧
        values = [(Plan.fieldName index, value)])
      (drawOneField (σ := σ)) := by
  apply (produces_drawFieldName configured).bind
  rintro name ⟨index, small, rfl⟩
  intro before source values after rest same drawn
  rcases produces_drawValues configured given _ same drawn with ⟨⟨names, fits⟩, sameAfter⟩
  rcases List.map_eq_singleton_iff.mp names with ⟨⟨name, value⟩, rfl, rfl⟩
  exact ⟨⟨index, small, value, fits _ List.mem_cons_self, rfl⟩, sameAfter⟩

theorem produces_drawUpdate (configured : Configured properties first)
    (given : sizes.Of properties) :
    Produces first (first.Writes sizes) (drawUpdate (σ := σ)) := by
  apply produces_get.bind
  intro state same
  rw [toPlan_eq_of_idle same]
  unfold Plan.Writes
  split
  · exact produces_drawRecord configured given
  · exact produces_drawOneField configured given

theorem produces_drawWanted (configured : Configured properties first) :
    Produces first first.Wants (drawWanted (σ := σ)) := by
  apply produces_get.bind
  intro state same
  rw [toPlan_eq_of_idle same]
  unfold Plan.Wants
  split
  · exact produces_pure rfl
  · apply (produces_drawFieldName configured).bind
    rintro name ⟨index, small, rfl⟩
    exact produces_pure ⟨index, small, rfl⟩

/-! ## Transactions -/

def Filled (first : Workload) (sizes : Sizes) (transaction : Transaction) : Prop :=
  ∀ request ∈ transaction.requests, request.Filled first.toPlan sizes

theorem produces_numbered {property : Transaction → Prop}
    {next : UInt64 → String → Record → Drawing σ Transaction}
    (configured : Configured properties first) (given : sizes.Of properties)
    (produces : ∀ number key values, first.Whole sizes values →
      Produces first property (next number key values)) :
    Produces first property (do
      let number ← nextNumber
      let key ← keyWith number
      next number key (← drawRecord)) := by
  have handed : Produces first (fun _ => True) (nextNumber (σ := σ)) := by
    intro before source number after rest same drawn
    cases drawn
    exact ⟨trivial, same⟩
  apply handed.bind
  intro number _
  apply (produces_keyWith number).bind
  intro key _
  exact (produces_drawRecord configured given).bind fun values => produces number key values

theorem produces_aimed {property : Transaction → Prop} {next : String → Drawing σ Transaction}
    (produces : ∀ key, Produces first property (next key)) :
    Produces first property (do
      let key ← keyWith (← drawTarget)
      next key) := by
  have aimed : Produces first (fun _ => True) (drawTarget (σ := σ)) :=
    Keeps.produces (drawTargetWithin_keeps redrawLimit) fun _ _ _ _ _ _ _ => trivial
  apply aimed.bind
  intro number _
  exact (produces_keyWith number).bind fun key _ => produces key

theorem filled_single {operation : Operation} {request : Request} {number? : Option UInt64}
    (filled : request.Filled first.toPlan sizes) :
    first.Filled sizes ⟨operation, [], request, number?⟩ := by
  intro other member
  rwa [List.mem_singleton.mp member]

theorem produces_nextTransaction (configured : Configured properties first)
    (given : sizes.Of properties) :
    Produces first (first.Filled sizes) (nextTransaction (σ := σ)) := by
  have chosen : Produces first (fun _ => True) (drawOperation (σ := σ)) :=
    drawOperation_keeps.produces fun _ _ _ _ _ _ _ => trivial
  apply chosen.bind
  intro operation _
  cases operation with
  | insert =>
      apply produces_numbered configured given
      intro number key values whole
      exact produces_seen fun _ => filled_single whole
  | read =>
      apply produces_aimed
      intro key
      apply (produces_drawWanted configured).bind
      intro fields wants
      exact produces_seen fun _ => filled_single wants
  | update =>
      apply produces_aimed
      intro key
      apply (produces_drawUpdate configured given).bind
      intro values writes
      exact produces_seen fun _ => filled_single writes
  | scan =>
      apply produces_aimed
      intro key
      apply produces_drawScanLength.bind
      intro length admits
      apply (produces_drawWanted configured).bind
      intro fields wants
      rcases given.scan configured admits with ⟨least, most⟩
      exact produces_seen fun _ => filled_single ⟨least, most, wants⟩
  | readModifyWrite =>
      apply produces_aimed
      intro key
      apply (produces_drawWanted configured).bind
      intro fields wants
      apply (produces_drawUpdate configured given).bind
      intro values writes
      apply produces_seen
      intro state request member
      rcases List.mem_cons.mp member with rfl | member
      · exact wants
      · rw [List.mem_singleton.mp member]
        exact writes

theorem produces_drawing (configured : Configured properties first) (given : sizes.Of properties)
    (phase : Phase) : Produces first (first.Filled sizes) (phase.drawing (σ := σ)) := by
  cases phase with
  | load =>
      apply produces_numbered configured given
      intro number key values whole
      exact produces_seen fun _ => filled_single whole
  | transactions => exact produces_nextTransaction configured given

end Workload

theorem Drawn.addressed {before after : Workload} {phase : Phase} {transaction : Transaction}
    {request : Request} (drawn : Drawn before phase transaction after)
    (member : request ∈ transaction.requests) :
    request.Addressed before.toPlan before.frontier.last := by
  cases drawn with
  | load values same | insert values same =>
      rw [List.mem_singleton.mp member]
      exact ⟨rfl, _, rfl⟩
  | read number _ reached same | update number _ reached same | scan number _ _ reached same =>
      rw [List.mem_singleton.mp member]
      exact ⟨rfl, number, reached, rfl⟩
  | readModifyWrite number fields values reached same =>
      rcases List.mem_cons.mp member with rfl | member
      · exact ⟨rfl, number, reached, rfl⟩
      · rw [List.mem_singleton.mp member]
        exact ⟨rfl, number, reached, rfl⟩

theorem Workload.wellFormed_of_drawing {σ : Type} [WordSource σ] {properties : Properties}
    {first before after : Workload} {sizes : Sizes} {phase : Phase} {transaction : Transaction}
    {source rest : σ} {request : Request} (configured : Configured properties first)
    (given : sizes.Of properties) (reached : Reached first before)
    (drawn : phase.drawing.run (before, source) = .ok (transaction, after, rest))
    (member : request ∈ transaction.requests) :
    request.WellFormed first.toPlan sizes before.frontier.last := by
  have addressed := (drawing_drawn drawn).addressed member
  rw [toPlan_eq_of_idle reached.idle_eq] at addressed
  exact ⟨addressed, (produces_drawing configured given phase reached.idle_eq drawn).1 _ member⟩

end StoreBench
