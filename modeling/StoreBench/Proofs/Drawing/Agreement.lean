import StoreBench.Proofs.Drawing.Ranges
import StoreBench.Proofs.Drawing.Recomputed
import StoreBench.Proofs.Drawing.Targets
import StoreBench.Proofs.Drawing.Transactions

namespace StoreBench

/-! Draws that agree. Workers share the traces that draws leave in a workload, its counters and
its frontier. Traces have no influence on later draws, and the upcoming number has none but on
the key of an insert. So from two workloads that differ in no more than these, equal words
lead to equal transactions, but for the keys of inserts, and leave equal words behind. The
frontier matters only where a number past it may be drawn. -/

/-! ## Choices -/

section Choices

variable {σ : Type} [WordSource σ]

theorem Uniform.draw_eq {left right : Uniform} (same : left.bare = right.bare) (source : σ) :
    left.draw source = right.draw source :=
  (congrArg (fun choice : Uniform => choice.draw source) same :
    left.bare.draw source = right.bare.draw source)

theorem Weighted.draw_eq {α : Type} {left right : Weighted α} (same : left.bare = right.bare)
    (source : σ) : left.draw source = right.draw source :=
  (congrArg (fun choice : Weighted α => choice.draw source) same :
    left.bare.draw source = right.bare.draw source)

theorem Zipfian.drawAmong_of_unsupported {zipfian : Zipfian} {items : UInt64}
    (unsupported : ¬supported items) (source : σ) :
    zipfian.drawAmong items source = .error .unsupportedItemCount := by
  simp [drawAmong, unsupported, bind, Except.bind, throw, throwThe, MonadExceptOf.throw]

theorem Zipfian.Exact.drawAmong_eq {left right : Zipfian} (exact : left.Exact)
    (otherExact : right.Exact) (same : left.bare = right.bare) (items : UInt64) (source : σ) :
    left.drawAmong items source = right.drawAmong items source := by
  by_cases support : supported items
  · rw [drawAmong_of_supported support, drawAmong_of_supported support, exact.resize_eq,
      otherExact.resize_eq]
    simp only [computed_congr same]
    exact congrArg (Except.map _) (congrFun (congrFun (numberFor_congr same) items) _)
  · rw [drawAmong_of_unsupported support, drawAmong_of_unsupported support]

theorem Zipfian.draw_eq_of_settled {left right : Zipfian} (same : left.settled = right.settled)
    (source : σ) : left.draw source = right.draw source := by
  have items : left.items = right.items := by
    have kept := congrArg Zipfian.items same
    simpa [settled, resize_items] using kept
  by_cases support : supported left.items
  · have settledDraw (zipfian : Zipfian) (support : supported zipfian.items) :
        zipfian.draw source = (zipfian.settled.select zipfian.items
          (fractionOf (WordSource.nextWord source).1)).map fun value =>
            (value, { zipfian.settled with last := value }, (WordSource.nextWord source).2) :=
      drawAmong_of_supported support source
    rw [settledDraw left support, settledDraw right (items ▸ support), same, items]
  · exact (drawAmong_of_unsupported support source).trans
      (drawAmong_of_unsupported (items ▸ support) source).symm

theorem Scrambled.draw_eq {left right : Scrambled} (same : left.bare = right.bare)
    (source : σ) : left.draw source = right.draw source := by
  have base : left.base = right.base :=
    (congrArg Scrambled.base same : left.bare.base = right.bare.base)
  have items : left.items = right.items :=
    (congrArg Scrambled.items same : left.bare.items = right.bare.items)
  have ranks : left.ranks.settled = right.ranks.settled := congrArg Scrambled.ranks same
  simp only [draw, place, Zipfian.draw_eq_of_settled ranks, base, items]

/-! Choices whose sums are exact draw as if nothing had been drawn before. -/

def LengthChoice.Exact : LengthChoice → Prop
  | .zipfian skewed => skewed.Exact
  | _ => True

def KeyChoice.Exact : KeyChoice → Prop
  | .latest recent => recent.ages.Exact
  | _ => True

theorem LengthChoice.draw_eq {left right : LengthChoice} (exact : left.Exact)
    (otherExact : right.Exact) (same : left.bare = right.bare) (source : σ) :
    left.draw source = right.draw source := by
  cases left <;> cases right <;> try cases same
  case constant.constant => rfl
  case uniform.uniform left right =>
      simp only [draw, Uniform.draw_eq (uniform.inj same)]
  case zipfian.zipfian left right =>
      have ranks : left.bare = right.bare := zipfian.inj same
      have items : left.items = right.items :=
        (congrArg Zipfian.items ranks : left.bare.items = right.bare.items)
      simp only [draw, Zipfian.draw, Zipfian.Exact.drawAmong_eq exact otherExact ranks, items]

theorem LengthChoice.Exact.draw {choice after : LengthChoice} (exact : choice.Exact)
    {length : UInt64} {source rest : σ} (drawn : choice.draw source = .ok (length, after, rest)) :
    after.Exact := by
  cases choice with
  | constant | uniform =>
      cases drawn
      trivial
  | zipfian skewed =>
      rcases bind_eq_ok_iff.mp drawn with ⟨⟨value, later, words⟩, drawn, equal⟩
      cases equal
      exact Zipfian.Exact.drawAmong exact drawn

theorem KeyChoice.draw_eq {left right : KeyChoice} {newest other : UInt64} (exact : left.Exact)
    (otherExact : right.Exact) (same : left.bare = right.bare)
    (reach : newest = other ∨ ∃ even, left = .uniform even) (source : σ) :
    left.draw newest source = right.draw other source := by
  cases left <;> cases right <;> try cases same
  case uniform.uniform => simp only [draw, Uniform.draw_eq (uniform.inj same)]
  case scrambled.scrambled => simp only [draw, Scrambled.draw_eq (scrambled.inj same)]
  case latest.latest left right =>
      have ages : left.ages.bare = right.ages.bare := congrArg Latest.ages (latest.inj same)
      cases reach.resolve_right (by simp)
      simp only [draw, Latest.draw, Zipfian.Exact.drawAmong_eq exact otherExact ages]

theorem KeyChoice.Exact.draw {choice after : KeyChoice} (exact : choice.Exact)
    {newest number : UInt64} {source rest : σ}
    (drawn : choice.draw newest source = .ok (number, after, rest)) : after.Exact := by
  cases choice with
  | uniform even =>
      cases drawn
      trivial
  | scrambled scattered =>
      rcases bind_eq_ok_iff.mp drawn with ⟨⟨value, later, words⟩, _, equal⟩
      cases equal
      trivial
  | latest recent =>
      rcases bind_eq_ok_iff.mp drawn with ⟨⟨value, later, words⟩, drawn, equal⟩
      cases equal
      rcases Latest.draw_eq_ok_iff.mp drawn with ⟨age, ages, aged, _, rfl⟩
      exact Zipfian.Exact.drawAmong exact aged

end Choices

/-! ## Workloads -/

namespace Workload

variable {σ : Type}

def idle (workload : Workload) : Workload :=
  { workload.bare with keySequence := .startingAt 0, frontier := .startingAt 0 }

structure Exact (workload : Workload) : Prop where
  valueLength : workload.valueLength.Exact
  scanLength : workload.scanLength.Exact
  keys : workload.keys.Exact

/-- No number past the frontier can be drawn. -/
def Clear (workload : Workload) : Prop :=
  ∃ even, workload.keys = .uniform even ∧ even.upper ≤ workload.frontier.last

structure Alike (left right : Workload) : Prop where
  idle : left.idle = right.idle
  exact : left.Exact
  otherExact : right.Exact
  reach : left.frontier.last = right.frontier.last ∨ left.Clear ∧ right.Clear

namespace Alike

variable {left right : Workload}

theorem refl {workload : Workload} (exact : workload.Exact) : workload.Alike workload :=
  ⟨rfl, exact, exact, .inl rfl⟩

theorem toPlan (alike : left.Alike right) : left.toPlan = right.toPlan :=
  (congrArg Workload.toPlan alike.idle : left.idle.toPlan = right.idle.toPlan)

theorem valueLength (alike : left.Alike right) {source : σ} [WordSource σ] :
    left.valueLength.draw source = right.valueLength.draw source :=
  LengthChoice.draw_eq alike.exact.valueLength alike.otherExact.valueLength
    (congrArg Workload.valueLength alike.idle) source

theorem scanLength (alike : left.Alike right) {source : σ} [WordSource σ] :
    left.scanLength.draw source = right.scanLength.draw source :=
  LengthChoice.draw_eq alike.exact.scanLength alike.otherExact.scanLength
    (congrArg Workload.scanLength alike.idle) source

theorem operations (alike : left.Alike right) {source : σ} [WordSource σ] :
    left.operations.draw source = right.operations.draw source :=
  Weighted.draw_eq (congrArg Workload.operations alike.idle) source

theorem fields (alike : left.Alike right) {source : σ} [WordSource σ] :
    left.fields.draw source = right.fields.draw source :=
  Uniform.draw_eq (congrArg Workload.fields alike.idle) source

theorem keys (alike : left.Alike right) {source : σ} [WordSource σ] :
    left.keys.draw left.frontier.last source = right.keys.draw right.frontier.last source :=
  KeyChoice.draw_eq alike.exact.keys alike.otherExact.keys
    (congrArg Workload.keys alike.idle)
    (alike.reach.imp_right fun ⟨⟨even, uniform, _⟩, _⟩ => ⟨even, uniform⟩) source

end Alike

end Workload

/-! ## Drawings -/

namespace Drawing

variable {σ α β γ δ : Type}

/-- From workloads that are alike and equal words, two drawings lead to related values, to
workloads that are alike and to equal words. -/
def Agree (related : α → β → Prop) (first : Drawing σ α) (second : Drawing σ β) : Prop :=
  ∀ ⦃left right source value after rest⦄, left.Alike right →
    first.run (left, source) = .ok (value, after, rest) →
    ∃ other later, second.run (right, source) = .ok (other, later, rest) ∧
      related value other ∧ after.Alike later

theorem agree_pure {related : α → β → Prop} {value : α} {other : β}
    (same : related value other) : Agree related (pure value : Drawing σ α) (pure other) := by
  intro left right source result after rest alike drawn
  cases drawn
  exact ⟨other, right, rfl, same, alike⟩

theorem agree_get : Agree (fun state other => state.1.Alike other.1)
    (get : Drawing σ (Workload × σ)) get := by
  intro left right source result after rest alike drawn
  cases drawn
  exact ⟨(right, source), right, rfl, alike, alike⟩

theorem Agree.bind {related : α → β → Prop} {outcome : γ → δ → Prop} {first : Drawing σ α}
    {second : Drawing σ β} {next : α → Drawing σ γ} {following : β → Drawing σ δ}
    (start : Agree related first second)
    (rest : ∀ value other, related value other → Agree outcome (next value) (following other)) :
    Agree outcome (first >>= next) (second >>= following) := by
  intro left right source result after words alike drawn
  rcases run_bind_eq_ok_iff.mp drawn with ⟨value, ⟨middle, between⟩, firstDrawn, nextDrawn⟩
  rcases start alike firstDrawn with ⟨other, later, secondDrawn, same, alike⟩
  rcases rest value other same alike nextDrawn with ⟨outcome, last, followed, same, alike⟩
  exact ⟨outcome, last, run_bind_eq_ok_iff.mpr ⟨other, _, secondDrawn, followed⟩, same, alike⟩

theorem Agree.bind_same {outcome : γ → δ → Prop} {first second : Drawing σ α}
    {next : α → Drawing σ γ} {following : α → Drawing σ δ} (start : Agree Eq first second)
    (rest : ∀ value, Agree outcome (next value) (following value)) :
    Agree outcome (first >>= next) (second >>= following) :=
  start.bind fun value _ same => same ▸ rest value

theorem agree_seen {related : α → β → Prop} {make : Workload × σ → α} {other : Workload × σ → β}
    (same : ∀ state later, state.1.toPlan = later.1.toPlan → related (make state) (other later)) :
    Agree related (do return make (← get)) (do return other (← get)) := by
  apply agree_get.bind
  intro state later alike
  exact agree_pure (same state later alike.toPlan)

theorem agree_of_map {drawing : Drawing σ α} {draw : Workload → σ → Except Crash γ}
    {result : Workload → γ → α × Workload × σ}
    (run : ∀ before source,
      drawing.run (before, source) = (draw before source).map (result before))
    (same : ∀ left right source, left.Alike right → draw left source = draw right source)
    (alike : ∀ left right source drawn, left.Alike right → draw left source = .ok drawn →
      (result left drawn).1 = (result right drawn).1 ∧
        (result left drawn).2.1.Alike (result right drawn).2.1 ∧
        (result left drawn).2.2 = (result right drawn).2.2) : Agree Eq drawing drawing := by
  intro left right source value after rest before drawn
  rw [run] at drawn
  cases step : draw left source with
  | error crash => simp [step, Except.map] at drawn
  | ok outcome =>
      simp only [step, Except.map, Except.ok.injEq] at drawn
      rcases alike left right source outcome before step with ⟨sameValue, later, sameRest⟩
      simp only [drawn] at sameValue later sameRest
      refine ⟨value, (result right outcome).2.1, ?_, rfl, later⟩
      rw [run, ← same left right source before, step]
      exact congrArg Except.ok (Prod.ext sameValue.symm (Prod.ext rfl sameRest.symm))

end Drawing

namespace Workload

open Drawing

variable {σ : Type}

theorem agree_keyWith (number : UInt64) :
    Agree Eq (keyWith (σ := σ) number) (keyWith number) :=
  agree_seen fun _ _ plan => by rw [plan]

theorem agree_nextNumber : Agree (fun _ _ => True) (nextNumber (σ := σ)) nextNumber := by
  intro left right source number after rest alike drawn
  cases drawn
  refine ⟨_, _, run_nextNumber right source, trivial, ?_⟩
  exact { alike with
    idle := alike.idle
    exact := { alike.exact with }
    otherExact := { alike.otherExact with }
    reach := alike.reach }

variable [WordSource σ]

theorem agree_drawValueLength : Agree Eq (drawValueLength (σ := σ)) drawValueLength := by
  apply agree_of_map run_drawValueLength
  · exact fun left right source alike => alike.valueLength
  · rintro left right source ⟨length, valueLength, rest⟩ alike drawn
    have exact := alike.exact.valueLength.draw drawn
    refine ⟨rfl, ?_, rfl⟩
    exact {
      idle := congrArg (fun idle => { idle with valueLength := valueLength.bare }) alike.idle
      exact := { alike.exact with valueLength := exact }
      otherExact := { alike.otherExact with valueLength := exact }
      reach := alike.reach }

theorem agree_drawScanLength : Agree Eq (drawScanLength (σ := σ)) drawScanLength := by
  apply agree_of_map run_drawScanLength
  · exact fun left right source alike => alike.scanLength
  · rintro left right source ⟨length, scanLength, rest⟩ alike drawn
    have exact := alike.exact.scanLength.draw drawn
    refine ⟨rfl, ?_, rfl⟩
    exact {
      idle := congrArg (fun idle => { idle with scanLength := scanLength.bare }) alike.idle
      exact := { alike.exact with scanLength := exact }
      otherExact := { alike.otherExact with scanLength := exact }
      reach := alike.reach }

theorem agree_drawOperation : Agree Eq (drawOperation (σ := σ)) drawOperation := by
  apply agree_of_map run_drawOperation
  · exact fun left right source alike => alike.operations
  · rintro left right source ⟨operation, operations, rest⟩ alike drawn
    refine ⟨rfl, ?_, rfl⟩
    exact {
      idle := congrArg (fun idle => { idle with operations := operations.bare }) alike.idle
      exact := { alike.exact with }
      otherExact := { alike.otherExact with }
      reach := alike.reach }

theorem agree_drawFieldName : Agree Eq (drawFieldName (σ := σ)) drawFieldName := by
  have run (before : Workload) (source : σ) : drawFieldName.run (before, source) =
      (Except.ok (before.fields.draw source)).map fun drawn =>
        (Plan.fieldName drawn.1.toNat, { before with fields := drawn.2.1 }, drawn.2.2) := rfl
  apply agree_of_map run
  · exact fun left right source alike => congrArg Except.ok alike.fields
  · rintro left right source ⟨index, fields, rest⟩ alike drawn
    refine ⟨rfl, ?_, rfl⟩
    exact {
      idle := congrArg (fun idle => { idle with fields := fields.bare }) alike.idle
      exact := { alike.exact with }
      otherExact := { alike.otherExact with }
      reach := alike.reach }

theorem Clear.drawNumber {before : Workload} (clear : before.Clear) {keys : KeyChoice}
    {source rest : σ} {number : UInt64}
    (drawn : before.keys.draw before.frontier.last source = .ok (number, keys, rest)) :
    number ≤ before.frontier.last ∧ { before with keys }.Clear := by
  rcases clear with ⟨even, uniform, upper⟩
  rw [uniform] at drawn
  cases drawn
  exact ⟨UInt64.le_trans (drawBetween_mem even.lower_le_upper source).2 upper, _, rfl, upper⟩

theorem agree_drawNumber : Agree Eq (drawNumber (σ := σ)) drawNumber := by
  apply agree_of_map run_drawNumber
  · exact fun left right source alike => alike.keys
  · rintro left right source ⟨number, keys, rest⟩ alike drawn
    have exact := alike.exact.keys.draw drawn
    refine ⟨rfl, ?_, rfl⟩
    exact {
      idle := congrArg (fun idle => { idle with keys := keys.bare }) alike.idle
      exact := { alike.exact with keys := exact }
      otherExact := { alike.otherExact with keys := exact }
      reach := alike.reach.imp_right fun ⟨clear, other⟩ =>
        ⟨(clear.drawNumber drawn).2, (other.drawNumber (alike.keys.symm.trans drawn)).2⟩ }

/-! ## Records -/

/-- A printable text, put between two looks at the state. -/
def drawText (length : Nat) : Drawing σ String := do
  let (workload, source) ← get
  let (value, source) ← (drawPrintable length source : Except Crash (String × σ))
  set (workload, source)
  return value

theorem run_drawText (length : Nat) (before : Workload) (source : σ) :
    (drawText length).run (before, source) =
      (drawPrintable length source).map fun (text, rest) => (text, before, rest) := by
  cases drawn : drawPrintable length source <;>
    simp only [drawText, StateT.run_bind, StateT.run_get, pure_bind, drawn] <;> rfl

theorem agree_drawValue : Agree Eq (drawValue (σ := σ)) drawValue := by
  apply agree_drawValueLength.bind_same
  intro length
  apply agree_of_map (run_drawText length.toNat)
  · exact fun left right source alike => rfl
  · exact fun left right source drawn alike _ => ⟨rfl, alike, rfl⟩

theorem agree_drawValues (names : List String) :
    Agree Eq (drawValues (σ := σ) names) (drawValues names) := by
  induction names with
  | nil => exact agree_pure rfl
  | cons _ rest induction =>
      apply agree_drawValue.bind_same
      intro value
      exact induction.bind_same fun others => agree_pure rfl

theorem agree_drawRecord : Agree Eq (drawRecord (σ := σ)) drawRecord := by
  apply agree_get.bind
  intro state other alike
  rw [alike.toPlan]
  exact agree_drawValues _

theorem agree_drawOneField : Agree Eq (drawOneField (σ := σ)) drawOneField :=
  agree_drawFieldName.bind_same fun _ => agree_drawValues _

theorem agree_drawUpdate : Agree Eq (drawUpdate (σ := σ)) drawUpdate := by
  apply agree_get.bind
  intro state other alike
  rw [alike.toPlan]
  split
  · exact agree_drawRecord
  · exact agree_drawOneField

theorem agree_drawWanted : Agree Eq (drawWanted (σ := σ)) drawWanted := by
  apply agree_get.bind
  intro state other alike
  rw [alike.toPlan]
  split
  · exact agree_pure rfl
  · exact agree_drawFieldName.bind_same fun _ => agree_pure rfl

/-! ## Keys -/

theorem agree_drawTargetWithin (draws : Nat) :
    Agree Eq (drawTargetWithin (σ := σ) draws) (drawTargetWithin draws) := by
  induction draws with
  | zero =>
      intro left right source value after rest alike drawn
      cases drawn
  | succ draws induction =>
      intro left right source value after rest alike drawn
      rcases run_bind_eq_ok_iff.mp drawn with ⟨number, ⟨middle, between⟩, first, others⟩
      rcases agree_drawNumber alike first with ⟨_, other, second, rfl, alikeAfter⟩
      rcases run_bind_eq_ok_iff.mp others with ⟨_, _, seen, others⟩
      cases seen
      -- What is accepted on one side is accepted on the other.
      have accepted : number ≤ middle.frontier.last ↔ number ≤ other.frontier.last := by
        have kept := frontier_eq_of_bare (drawNumber_keeps first)
        have otherKept := frontier_eq_of_bare (drawNumber_keeps second)
        rw [kept, otherKept]
        rcases alike.reach with same | ⟨clear, otherClear⟩
        · rw [same]
        · rcases run_drawNumber_eq_ok_iff.mp first with ⟨_, chosen, _⟩
          rcases run_drawNumber_eq_ok_iff.mp second with ⟨_, otherChosen, _⟩
          exact iff_of_true (clear.drawNumber chosen).1 (otherClear.drawNumber otherChosen).1
      have next : Agree Eq (if number ≤ middle.frontier.last then pure number
          else drawTargetWithin (σ := σ) draws)
          (if number ≤ other.frontier.last then pure number else drawTargetWithin draws) := by
        simp only [accepted]
        split
        · exact agree_pure rfl
        · exact induction
      rcases next alikeAfter others with ⟨result, later, followed, same, alikeLater⟩
      exact ⟨result, later, run_bind_eq_ok_iff.mpr ⟨number, _, second,
        run_bind_eq_ok_iff.mpr ⟨_, _, rfl, followed⟩⟩, same, alikeLater⟩

theorem agree_drawTarget : Agree Eq (drawTarget (σ := σ)) drawTarget :=
  agree_drawTargetWithin redrawLimit

end Workload

/-! ## Transactions -/

def Request.unkeyed : Request → Request
  | .insert table _ values => .insert table "" values
  | other => other

def Transaction.unkeyed (transaction : Transaction) : Transaction where
  operation := transaction.operation
  earlier := transaction.earlier.map Request.unkeyed
  deciding := transaction.deciding.unkeyed
  number? := none

namespace Workload

open Drawing

variable {σ : Type} [WordSource σ]

/-- Transactions that differ at most in the number and the key of an insert. -/
def Similar (transaction other : Transaction) : Prop := transaction.unkeyed = other.unkeyed

theorem agree_numbered {next : UInt64 → String → Record → Drawing σ Transaction}
    (agree : ∀ number other key otherKey values,
      Agree Similar (next number key values) (next other otherKey values)) :
    Agree Similar
      (do
        let number ← nextNumber
        let key ← keyWith number
        next number key (← drawRecord))
      (do
        let number ← nextNumber
        let key ← keyWith number
        next number key (← drawRecord)) := by
  apply agree_nextNumber.bind
  intro number other _
  have keys : Agree (fun _ _ => True) (keyWith (σ := σ) number) (keyWith other) :=
    agree_seen fun _ _ _ => trivial
  apply keys.bind
  intro key otherKey _
  exact agree_drawRecord.bind_same fun values => agree number other key otherKey values

theorem agree_aimed {next : String → Drawing σ Transaction}
    (agree : ∀ key, Agree Similar (next key) (next key)) :
    Agree Similar
      (do
        let key ← keyWith (← drawTarget)
        next key)
      (do
        let key ← keyWith (← drawTarget)
        next key) := by
  apply agree_drawTarget.bind_same
  intro number
  exact (agree_keyWith number).bind_same agree

theorem agree_nextLoad : Agree Similar (nextLoad (σ := σ)) nextLoad := by
  apply agree_numbered
  intro number other key otherKey values
  exact agree_seen fun _ _ plan => by rw [plan]; rfl

theorem agree_nextInsert : Agree Similar (nextInsert (σ := σ)) nextInsert := by
  apply agree_numbered
  intro number other key otherKey values
  exact agree_seen fun _ _ plan => by rw [plan]; rfl

theorem agree_nextRead : Agree Similar (nextRead (σ := σ)) nextRead := by
  apply agree_aimed
  intro key
  apply agree_drawWanted.bind_same
  intro fields
  exact agree_seen fun _ _ plan => by rw [plan]; rfl

theorem agree_nextUpdate : Agree Similar (nextUpdate (σ := σ)) nextUpdate := by
  apply agree_aimed
  intro key
  apply agree_drawUpdate.bind_same
  intro values
  exact agree_seen fun _ _ plan => by rw [plan]; rfl

theorem agree_nextScan : Agree Similar (nextScan (σ := σ)) nextScan := by
  apply agree_aimed
  intro key
  apply agree_drawScanLength.bind_same
  intro length
  apply agree_drawWanted.bind_same
  intro fields
  exact agree_seen fun _ _ plan => by rw [plan]; rfl

theorem agree_nextReadModifyWrite :
    Agree Similar (nextReadModifyWrite (σ := σ)) nextReadModifyWrite := by
  apply agree_aimed
  intro key
  apply agree_drawWanted.bind_same
  intro fields
  apply agree_drawUpdate.bind_same
  intro values
  exact agree_seen fun _ _ plan => by rw [plan]; rfl

theorem agree_nextTransaction : Agree Similar (nextTransaction (σ := σ)) nextTransaction := by
  apply agree_drawOperation.bind_same
  intro operation
  cases operation with
  | insert => exact agree_nextInsert
  | read => exact agree_nextRead
  | update => exact agree_nextUpdate
  | scan => exact agree_nextScan
  | readModifyWrite => exact agree_nextReadModifyWrite

theorem agree_drawing (phase : Phase) :
    Agree Similar (phase.drawing (σ := σ)) phase.drawing := by
  cases phase with
  | load => exact agree_nextLoad
  | transactions => exact agree_nextTransaction

end Workload
end StoreBench
