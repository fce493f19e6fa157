import StoreBench.Proofs.Drawing.Histories

namespace StoreBench.Latest

/-! Draws that follow a counter. At each draw a choice is told which number is the newest one,
and between draws the counter that says so may move up and down. Sums are extended or computed
again then, but they leave no trace: a number that is drawn depends on the newest number and on
one word. It is at most the newest number, and never zero. -/

/-- What happens next to a choice and to the counter that it follows: the counter hands out a
number or is set to another one, or a number is drawn, with words of its own. -/
inductive Turn (σ : Type) where
  | next
  | set (upcoming : UInt64)
  | draw (source : σ)

variable {σ : Type}

def Turn.move : Turn σ → Counter → Counter
  | .next, counter => counter.next.2
  | .set upcoming, _ => .startingAt upcoming
  | .draw _, counter => counter

def moveAll (turns : List (Turn σ)) (counter : Counter) : Counter :=
  turns.foldl (fun counter turn => turn.move counter) counter

/-- The choice of an age that all of them have in common, however many numbers they were made
for: from zero on, with the default skew. -/
def common : Zipfian where
  items := 0
  base := 0
  theta := Zipfian.defaultTheta
  alpha := 1 / (1 - Zipfian.defaultTheta)
  zeta2 := Zipfian.zeta 0 2 Zipfian.defaultTheta 0
  zetaItems := 0
  zetaN := 0
  eta := 0
  last := 0

def numberFor (newest word : UInt64) : Except Crash UInt64 := do
  checkedSub newest (← common.numberFor newest word)

variable [WordSource σ]

def sights : List (Turn σ) → Counter → List (UInt64 × UInt64)
  | [], _ => []
  | turn :: rest, counter =>
      match turn with
      | .draw source => (counter.last, (WordSource.nextWord source).1) :: sights rest counter
      | .next | .set _ => sights rest (turn.move counter)

def follow : List (Turn σ) → Counter → Latest → Except Crash (List UInt64 × Counter × Latest)
  | [], counter, latest => .ok ([], counter, latest)
  | turn :: rest, counter, latest =>
      match turn with
      | .draw source => do
          let (number, latest, _) ← latest.draw counter.last source
          let (numbers, counter, latest) ← follow rest counter latest
          return (number :: numbers, counter, latest)
      | .next | .set _ => follow rest (turn.move counter) latest

/-! ## Single draws -/

/-- A choice that can be made and drawn from: its sum is exact, and but for the numbers of items
it is like all others. -/
structure Steady (latest : Latest) : Prop where
  exact : latest.ages.Exact
  common : { latest.ages.bare with items := 0 } = common

theorem steady_of_upTo {newest : UInt64} {latest : Latest} (made : upTo newest = .ok latest) :
    latest.Steady ∧ latest.last = newest := by
  rcases bind_eq_ok_iff.mp made with ⟨ages, below, made⟩
  cases made
  refine ⟨⟨(Zipfian.Made.below below).exact, ?_⟩, rfl⟩
  rcases bind_eq_ok_iff.mp below with ⟨_, _, between⟩
  rcases bind_eq_ok_iff.mp between with ⟨_, _, between⟩
  cases between
  rfl

namespace Steady

variable {latest : Latest} {newest : UInt64}

theorem base_eq (steady : latest.Steady) : latest.ages.base = 0 :=
  congrArg Zipfian.base steady.common

theorem numberFor_eq (steady : latest.Steady) :
    latest.ages.numberFor = Latest.common.numberFor :=
  (congrArg Zipfian.numberFor steady.common :
    Zipfian.numberFor { latest.ages.bare with items := 0 } = _)

theorem aged (steady : latest.Steady) {age : UInt64} {ages : Zipfian} {source rest : σ}
    (drawn : latest.ages.drawAmong newest source = .ok (age, ages, rest)) (value : UInt64) :
    Steady ⟨ages, value⟩ := by
  refine ⟨steady.exact.drawAmong drawn, ?_⟩
  dsimp only
  rw [Zipfian.bare_drawAmong drawn]
  exact steady.common

theorem draw (steady : latest.Steady) (support : Zipfian.supported newest) (source : σ) :
    ∃ number after,
      latest.draw newest source = .ok (number, after, (WordSource.nextWord source).2) ∧
      numberFor newest (WordSource.nextWord source).1 = .ok number ∧
      (1 ≤ number ∧ number ≤ newest) ∧ after.last = number ∧ after.Steady := by
  rcases Zipfian.exists_select (latest.ages.computed newest) support
    (Zipfian.ready_of_base steady.base_eq support).2
    (fractionOf (WordSource.nextWord source).1) with ⟨age, selected⟩
  have aged : latest.ages.drawAmong newest source = _ :=
    Zipfian.drawAmong_of_supported support source
  rw [steady.exact.resize_eq, selected] at aged
  have young := (Zipfian.range_of_drawAmong aged).2
  rw [steady.base_eq, UInt64.toNat_zero, Nat.zero_add] at young
  have left : (newest - age).toNat = newest.toNat - age.toNat :=
    UInt64.toNat_sub_of_le _ _ (UInt64.le_iff_toNat_le.mpr (Nat.le_of_lt young))
  have subtracted : checkedSub newest age = .ok (newest - age) :=
    checkedSub_eq_ok_iff.mpr (by omega)
  have found : Latest.common.numberFor newest (WordSource.nextWord source).1 = .ok age := by
    rw [← steady.numberFor_eq]
    exact selected
  refine ⟨newest - age, _, draw_eq_ok_iff.mpr ⟨age, _, aged, subtracted, rfl⟩,
    bind_eq_ok_iff.mpr ⟨age, found, subtracted⟩, ⟨?_, ?_⟩, rfl, steady.aged aged _⟩
  · rw [UInt64.le_iff_toNat_le, left, UInt64.toNat_one]
    omega
  · rw [UInt64.le_iff_toNat_le, left]
    omega

end Steady

/-! ## Draws between moves of the counter -/

def Seen (sight : UInt64 × UInt64) (number : UInt64) : Prop :=
  numberFor sight.1 sight.2 = .ok number ∧ 1 ≤ number ∧ number ≤ sight.1

theorem Steady.follow {latest : Latest} {counter : Counter} {turns : List (Turn σ)}
    (steady : latest.Steady)
    (inRange : ∀ sight ∈ sights turns counter, Zipfian.supported sight.1) :
    ∃ numbers after, Latest.follow turns counter latest =
        .ok (numbers, moveAll turns counter, after) ∧
      List.Forall₂ Seen (sights turns counter) numbers ∧
      after.last = numbers.getLast?.getD latest.last := by
  induction turns generalizing counter latest with
  | nil => exact ⟨[], latest, rfl, .nil, rfl⟩
  | cons turn rest induction =>
      cases turn with
      | next | set => exact induction steady inRange
      | draw source =>
          rcases List.forall_mem_cons.mp inRange with ⟨here, later⟩
          rcases steady.draw here source with
            ⟨number, middle, drawn, found, range, last, steadyMiddle⟩
          rcases induction steadyMiddle later with ⟨numbers, after, followed, seen, final⟩
          refine ⟨number :: numbers, after, ?_, .cons ⟨found, range⟩ seen, ?_⟩
          · exact bind_eq_ok_iff.mpr ⟨_, drawn, bind_eq_ok_iff.mpr ⟨_, followed, rfl⟩⟩
          · rw [final, last, List.getLast?_cons]
            rfl

/-- A choice can be made exactly if the newest number is from two on and below the bound. However
the counter moves afterwards, as long as the same is true at each draw, every draw finds a number
that the newest one and a word decide on, and that is neither zero nor past the newest one. The
number drawn last is known at any time. -/
theorem draws_follow_counter (basis : Counter) :
    ((∃ first, upTo basis.last = .ok first) ↔
      2 ≤ basis.last.toNat ∧ basis.last.toNat < 2 ^ 40) ∧
    ∀ {first : Latest} {σ : Type} [WordSource σ] (turns : List (Turn σ)),
      upTo basis.last = .ok first →
      (∀ sight ∈ sights turns basis, 2 ≤ sight.1.toNat ∧ sight.1.toNat < 2 ^ 40) →
      ∃ numbers after, follow turns basis first = .ok (numbers, moveAll turns basis, after) ∧
        List.Forall₂ Seen (sights turns basis) numbers ∧
        after.last = numbers.getLast?.getD basis.last := by
  refine ⟨exists_upTo_iff.trans Zipfian.supported_iff_toNat, ?_⟩
  intro first σ _ turns made inRange
  rcases steady_of_upTo made with ⟨steady, last⟩
  rw [← last]
  exact steady.follow fun sight member => Zipfian.supported_iff_toNat.mpr (inRange sight member)

/-- Draws up to nine, then up to two after the counter was set back, then up to three. -/
theorem draws_follow_counter_setBack :
    ∃ first, upTo (Counter.startingAt 10).last = .ok first ∧ ∀ words : Nat → UInt64,
      ∃ newest less more after,
        follow [.draw words, .set 3, .draw words, .next, .draw words] (.startingAt 10) first =
          .ok ([newest, less, more], .startingAt 4, after) ∧
        newest ≤ 9 ∧ 1 ≤ less ∧ less ≤ 2 ∧ more ≤ 3 ∧ after.last = more := by
  rcases (draws_follow_counter (.startingAt 10)).1.mpr (by decide) with ⟨first, made⟩
  refine ⟨first, made, fun words => ?_⟩
  rcases (draws_follow_counter (.startingAt 10)).2
    [.draw words, .set 3, .draw words, .next, .draw words] made
    (by simp [sights, Turn.move, Counter.startingAt, Counter.last, Counter.next]) with
    ⟨numbers, after, followed, seen, last⟩
  cases seen with
  | cons newest seen =>
      cases seen with
      | cons less seen =>
          cases seen with
          | cons more seen =>
              cases seen
              exact ⟨_, _, _, after, followed, newest.2.2, less.2.1, less.2.2, more.2.2, last⟩

end StoreBench.Latest
