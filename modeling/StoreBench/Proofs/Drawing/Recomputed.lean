import Mathlib.Algebra.Group.Nat.Defs
import StoreBench.Proofs.Drawing.Scattered

namespace StoreBench.Zipfian

/-! Draws that do not depend on earlier ones. A Zipfian choice keeps the sum for the number of
items asked for last, and extends it when more are asked for. Since the terms are added in the
same order either way, the sum is always the one that would be computed from the first term
on. So a number that is drawn depends on the number of items and on one word alone. -/

def computed (zipfian : Zipfian) (items : UInt64) : Zipfian :=
  let zetaN := zeta 0 items zipfian.theta 0
  { zipfian with
    zetaItems := items, zetaN, eta := etaOf items zipfian.theta zipfian.zeta2 zetaN }

def numberFor (zipfian : Zipfian) (items word : UInt64) : Except Crash UInt64 :=
  (zipfian.computed items).select items (fractionOf word)

def Exact (zipfian : Zipfian) : Prop := zipfian.computed zipfian.zetaItems = zipfian

inductive Made : Zipfian → Prop where
  | withTheta {zipfian : Zipfian} {lower upper : UInt64} {theta : Float}
      (made : withTheta lower upper theta = .ok zipfian) : Made zipfian
  | between {zipfian : Zipfian} {lower upper : UInt64}
      (made : between lower upper = .ok zipfian) : Made zipfian
  | below {zipfian : Zipfian} {items : UInt64} (made : below items = .ok zipfian) : Made zipfian

/-- What a choice may have become after draws, among its own items or any number of them. -/
inductive Reached (first : Zipfian) : Zipfian → Prop where
  | start : Reached first first
  | draw {zipfian after : Zipfian} {value : UInt64} {σ : Type} [WordSource σ] {source rest : σ}
      (earlier : Reached first zipfian) (drawn : zipfian.draw source = .ok (value, after, rest)) :
      Reached first after
  | drawAmong {zipfian after : Zipfian} {items value : UInt64} {σ : Type} [WordSource σ]
      {source rest : σ} (earlier : Reached first zipfian)
      (drawn : zipfian.drawAmong items source = .ok (value, after, rest)) : Reached first after

/-! ## Sums -/

theorem zeta_of_le {covered items : UInt64} (theta : Float) (ordered : covered ≤ items) :
    zeta covered items theta (zeta 0 covered theta 0) = zeta 0 items theta 0 := by
  have split : items.toNat = covered.toNat + (items.toNat - covered.toNat) := by
    rw [UInt64.le_iff_toNat_le] at ordered
    omega
  have whole := extendZeta_add theta covered.toNat (items.toNat - covered.toNat) 0 0
  rw [← split] at whole
  simpa [zeta] using whole.symm

theorem Exact.zetaN_eq {zipfian : Zipfian} (exact : zipfian.Exact) :
    zipfian.zetaN = zeta 0 zipfian.zetaItems zipfian.theta 0 :=
  (congrArg zetaN exact).symm

theorem Exact.resize_eq {zipfian : Zipfian} (exact : zipfian.Exact) (items : UInt64) :
    zipfian.resize items = zipfian.computed items := by
  unfold resize
  split
  next more =>
    rw [exact.zetaN_eq, zeta_of_le zipfian.theta (UInt64.le_of_lt more)]
    rfl
  next notMore =>
    split
    next => rfl
    next notFewer =>
      have same : zipfian.zetaItems = items :=
        UInt64.le_antisymm (UInt64.not_lt.mp notFewer) (UInt64.not_lt.mp notMore)
      rw [← same]
      exact exact.symm

/-! ## Histories -/

theorem Made.withTheta_eq {zipfian : Zipfian} (made : Made zipfian) :
    ∃ lower upper theta, Zipfian.withTheta lower upper theta = .ok zipfian := by
  cases made with
  | withTheta made => exact ⟨_, _, _, made⟩
  | between made => exact ⟨_, _, defaultTheta, made⟩
  | below made =>
      rcases bind_eq_ok_iff.mp made with ⟨_, _, made⟩
      exact ⟨_, _, defaultTheta, made⟩

theorem Made.exact {zipfian : Zipfian} (made : Made zipfian) : zipfian.Exact := by
  rcases made.withTheta_eq with ⟨lower, upper, theta, made⟩
  rcases bind_eq_ok_iff.mp made with ⟨_, _, made⟩
  cases made
  rfl

theorem Made.zeta2_eq {zipfian : Zipfian} (made : Made zipfian) :
    zipfian.zeta2 = zeta 0 2 zipfian.theta 0 := by
  rcases made.withTheta_eq with ⟨lower, upper, theta, made⟩
  rcases bind_eq_ok_iff.mp made with ⟨_, _, made⟩
  cases made
  rfl

section Draws

variable {first zipfian after : Zipfian} {items value : UInt64}
variable {σ : Type} [WordSource σ] {source rest : σ}

theorem Exact.drawAmong (exact : zipfian.Exact)
    (drawn : zipfian.drawAmong items source = .ok (value, after, rest)) : after.Exact := by
  rcases drawAmong_eq_ok_iff.mp drawn with ⟨_, _, rfl, _⟩
  rw [exact.resize_eq]
  rfl

theorem Reached.exact (exact : first.Exact) (reached : Reached first zipfian) :
    zipfian.Exact := by
  induction reached with
  | start => exact exact
  | draw earlier drawn induction => exact induction.drawAmong drawn
  | drawAmong earlier drawn induction => exact induction.drawAmong drawn

theorem Reached.bare_eq (reached : Reached first zipfian) : zipfian.bare = first.bare := by
  induction reached with
  | start => rfl
  | draw earlier drawn induction => exact (bare_drawAmong drawn).trans induction
  | drawAmong earlier drawn induction => exact (bare_drawAmong drawn).trans induction

end Draws

/-! ## Single draws -/

theorem numberFor_congr {zipfian other : Zipfian} (same : zipfian.bare = other.bare) :
    zipfian.numberFor = other.numberFor :=
  (congrArg numberFor same : zipfian.bare.numberFor = other.bare.numberFor)

theorem computed_congr {zipfian other : Zipfian} (same : zipfian.bare = other.bare)
    (items value : UInt64) :
    { zipfian.computed items with last := value } =
      { other.computed items with last := value } :=
  congrArg (fun choice : Zipfian => { choice.computed items with last := value }) same

theorem drawAmong_of_supported {zipfian : Zipfian} {items : UInt64} {σ : Type} [WordSource σ]
    (support : supported items) (source : σ) :
    zipfian.drawAmong items source =
      ((zipfian.resize items).select items (fractionOf (WordSource.nextWord source).1)).map
        fun value =>
          (value, { zipfian.resize items with last := value },
            (WordSource.nextWord source).2) := by
  cases selected : (zipfian.resize items).select items
      (fractionOf (WordSource.nextWord source).1) <;>
    simp [drawAmong, support, drawFraction_eq, selected, bind, Except.bind, pure, Except.pure,
      Except.map]

theorem exists_select (zipfian : Zipfian) {items : UInt64} (support : supported items)
    (room : zipfian.base.toNat + items.toNat ≤ 2 ^ 64) (fraction : Float) :
    ∃ value, zipfian.select items fraction = .ok value := by
  rcases zipfian.exists_offset support fraction with ⟨offset, small, added⟩
  rw [UInt64.lt_iff_toNat_lt] at small
  refine ⟨zipfian.base + offset, added.trans (checkedAdd_eq_ok_iff.mpr ?_)⟩
  rw [UInt64.toNat_add]
  omega

/-- Whatever was drawn before, a draw among a number of items gives the number that its word is
drawn to, leaves the sum and its scale as they would be computed from the first term on, and
fails only if there is no room for that many items. -/
theorem drawAmong_eq_numberFor {first zipfian : Zipfian} (made : Made first)
    (reached : Reached first zipfian) :
    zipfian.items = first.items ∧ ∀ items, supported items →
      (∀ {σ : Type} [WordSource σ] (source : σ), zipfian.drawAmong items source =
        (first.numberFor items (WordSource.nextWord source).1).map fun value =>
          (value,
            { first with
              zetaItems := items
              zetaN := zeta 0 items first.theta 0
              eta := etaOf items first.theta (zeta 0 2 first.theta 0)
                (zeta 0 items first.theta 0)
              last := value },
            (WordSource.nextWord source).2)) ∧
      (first.base.toNat + items.toNat ≤ 2 ^ 64 →
        ∀ word, ∃ value, first.numberFor items word = .ok value) := by
  have same := reached.bare_eq
  have kept : zipfian.items = first.items :=
    (congrArg Zipfian.items same : zipfian.bare.items = first.bare.items)
  refine ⟨kept, fun items support => ⟨fun source => ?_, ?_⟩⟩
  · rw [drawAmong_of_supported support, (reached.exact made.exact).resize_eq,
      ← made.zeta2_eq, ← numberFor_congr same]
    simp only [computed_congr same]
    rfl
  · intro room word
    exact exists_select (first.computed items) support room (fractionOf word)

/-- A choice among ten that has drawn among a thousand draws among twenty as if it were new. -/
theorem drawAmong_eq_numberFor_grown :
    ∃ first grown : Zipfian, below 10 = .ok first ∧ Reached first grown ∧
      grown.zetaItems = 1000 ∧ ∀ words : Nat → UInt64, ∃ value after,
        first.numberFor 20 (words 0) = .ok value ∧
        grown.drawAmong 20 words = .ok (value, after, fun index => words (index + 1)) ∧
        after.zetaItems = 20 ∧ after.zetaN = zeta 0 20 first.theta 0 := by
  rcases (⟨_, rfl⟩ : ∃ first, below 10 = .ok first) with ⟨first, made⟩
  have base : first.base = 0 := (below_of_ok made).base
  have room (items : UInt64) : first.base.toNat + items.toNat ≤ 2 ^ 64 := by
    rw [base, UInt64.toNat_zero, Nat.zero_add]
    exact Nat.le_of_lt items.toNat_lt
  rcases (drawAmong_eq_numberFor (.below made) .start).2 1000 (by decide) with ⟨draws, succeeds⟩
  rcases succeeds (room 1000) 0 with ⟨value, found⟩
  have drawn := draws (fun _ : Nat => (0 : UInt64))
  rw [show WordSource.nextWord (fun _ : Nat => (0 : UInt64)) = (0, fun _ => 0) from rfl,
    found] at drawn
  have grown := Reached.start.drawAmong drawn
  rcases (drawAmong_eq_numberFor (.below made) grown).2 20 (by decide) with ⟨again, _⟩
  refine ⟨first, _, made, grown, rfl, fun words => ?_⟩
  rcases exists_select (first.computed 20) (by decide) (room 20) (fractionOf (words 0)) with
    ⟨number, selected⟩
  have next := (again words).trans (congrArg (Except.map _) selected)
  exact ⟨number, _, selected, next, rfl, rfl⟩

end StoreBench.Zipfian
