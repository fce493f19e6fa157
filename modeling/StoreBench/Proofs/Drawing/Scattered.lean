import StoreBench.Proofs.Drawing.Frame

namespace StoreBench

/-! Scattered draws, word by word. The number that a scattered choice draws is decided by one
word: it selects a rank, and the hash of the rank says where it lands. Which ranks there are
depends on the number of items alone. -/

def fractionOf (word : UInt64) : Float := (word >>> 11).toFloat / 9007199254740992

theorem drawFraction_eq {σ : Type} [WordSource σ] (source : σ) :
    drawFraction source =
      (fractionOf (WordSource.nextWord source).1, (WordSource.nextWord source).2) := rfl

namespace Zipfian

theorem two_le_of_supported {items : UInt64} (support : supported items) : 2 ≤ items := by
  simp only [supported, Bool.and_eq_true, decide_eq_true_eq] at support
  exact support.1

theorem checkItems_eq_ok_iff {items : UInt64} : checkItems items = .ok () ↔ supported items := by
  unfold checkItems
  split <;> simp_all

theorem itemsBetween_sub_one {items : UInt64} (support : supported items) :
    itemsBetween 0 (items - 1) = items := by
  have least := two_le_of_supported support
  have full : items - 1 - 0 ≠ 18446744073709551615 := by
    intro equal
    have zero : items = 0 := by
      rw [UInt64.sub_zero, UInt64.sub_eq_iff_eq_add] at equal
      exact equal
    rw [zero] at least
    exact absurd least (by decide)
  rw [itemsBetween, if_pos UInt64.zero_le, if_neg full]
  simp

structure Below (count : UInt64) (zipfian : Zipfian) : Prop where
  support : supported count
  base : zipfian.base = 0
  items : zipfian.items = count

theorem below_of_ok {count : UInt64} {zipfian : Zipfian} (made : below count = .ok zipfian) :
    Below count zipfian := by
  rcases bind_eq_ok_iff.mp made with ⟨_, checked, made⟩
  have support := checkItems_eq_ok_iff.mp checked
  rcases bind_eq_ok_iff.mp made with ⟨_, _, made⟩
  cases made
  exact ⟨support, rfl, itemsBetween_sub_one support⟩

/-- Whatever the fraction and the sums are, the base and an offset below the number of items
make up what is selected. -/
theorem exists_offset (zipfian : Zipfian) {items : UInt64} (support : supported items)
    (fraction : Float) :
    ∃ offset < items, zipfian.select items fraction = checkedAdd zipfian.base offset := by
  have least := UInt64.le_iff_toNat_le.mp (two_le_of_supported support)
  have two : (2 : UInt64).toNat = 2 := rfl
  have greatest : (items - 1).toNat = items.toNat - 1 :=
    UInt64.toNat_sub_of_le _ _ (UInt64.le_iff_toNat_le.mpr (by rw [UInt64.toNat_one]; omega))
  unfold select
  dsimp only
  split
  · refine ⟨0, ?_, (checkedAdd_eq_ok_iff.mpr rfl).symm⟩
    rw [UInt64.lt_iff_toNat_lt, UInt64.toNat_zero]
    omega
  · split
    · refine ⟨1, ?_, rfl⟩
      rw [UInt64.lt_iff_toNat_lt, UInt64.toNat_one]
      omega
    · refine ⟨_, ?_, rfl⟩
      rw [UInt64.lt_iff_toNat_lt]
      split
      · omega
      next below =>
          rw [UInt64.lt_iff_toNat_lt] at below
          omega

theorem select_lt {zipfian : Zipfian} {items rank : UInt64} {fraction : Float}
    (support : supported items) (base : zipfian.base = 0)
    (selected : zipfian.select items fraction = .ok rank) : rank < items := by
  rcases zipfian.exists_offset support fraction with ⟨offset, small, added⟩
  rw [added, base] at selected
  have sum := checkedAdd_eq_ok_iff.mp selected
  rw [UInt64.toNat_zero, Nat.zero_add] at sum
  rwa [UInt64.toNat_inj.mp sum]

end Zipfian

namespace Scrambled

structure Below (count : UInt64) (scattered : Scrambled) : Prop where
  base : scattered.base = 0
  items : scattered.items = count
  ranks : scattered.ranks.Below count

theorem below_of_ok {count : UInt64} {scattered : Scrambled} (made : below count = .ok scattered) :
    scattered.Below count := by
  rcases bind_eq_ok_iff.mp made with ⟨_, checked, made⟩
  rcases bind_eq_ok_iff.mp made with ⟨ranks, ranksMade, made⟩
  have all := Zipfian.itemsBetween_sub_one (Zipfian.checkItems_eq_ok_iff.mp checked)
  rw [all] at ranksMade
  cases made
  exact ⟨rfl, all, Zipfian.below_of_ok ranksMade⟩

def numberFor (scattered : Scrambled) (word : UInt64) : Except Crash UInt64 := do
  let ranks := scattered.ranks.settled
  let rank ← ranks.select ranks.items (fractionOf word)
  scattered.place rank

theorem numberFor_congr {scattered other : Scrambled} (same : scattered.bare = other.bare) :
    scattered.numberFor = other.numberFor := by
  have base : scattered.base = other.base :=
    (congrArg Scrambled.base same : scattered.bare.base = other.bare.base)
  have items : scattered.items = other.items :=
    (congrArg Scrambled.items same : scattered.bare.items = other.bare.items)
  have ranks : scattered.ranks.settled = other.ranks.settled := congrArg Scrambled.ranks same
  funext word
  simp only [numberFor, place, base, items, ranks]

variable {σ : Type} [WordSource σ] {scattered : Scrambled} {source : σ} {number : UInt64}

theorem numberFor_of_draw {after : Scrambled} {rest : σ}
    (drawn : scattered.draw source = .ok (number, after, rest)) :
    scattered.numberFor (WordSource.nextWord source).1 = .ok number := by
  rcases draw_eq_ok_iff.mp drawn with ⟨rank, ranks, ranked, placed, rfl⟩
  rcases Zipfian.drawAmong_eq_ok_iff.mp ranked with ⟨_, selected, _⟩
  refine bind_eq_ok_iff.mpr ⟨rank, ?_, placed⟩
  rw [Zipfian.settled, Zipfian.resize_items]
  exact selected

theorem draw_of_numberFor (support : Zipfian.supported scattered.ranks.items)
    (found : scattered.numberFor (WordSource.nextWord source).1 = .ok number) :
    ∃ after, scattered.draw source = .ok (number, after, (WordSource.nextWord source).2) := by
  rcases bind_eq_ok_iff.mp found with ⟨rank, selected, placed⟩
  rw [Zipfian.settled, Zipfian.resize_items] at selected
  exact ⟨_, draw_eq_ok_iff.mpr ⟨rank, _,
    Zipfian.drawAmong_eq_ok_iff.mpr ⟨support, selected, rfl, rfl⟩, placed, rfl⟩⟩

theorem numberFor_lands {count word : UInt64} (below : scattered.Below count)
    (found : scattered.numberFor word = .ok number) :
    ∃ rank < count, hashWord rank % count = number := by
  rcases bind_eq_ok_iff.mp found with ⟨rank, selected, placed⟩
  have items : scattered.ranks.settled.items = count :=
    (Zipfian.resize_items _ _).trans below.ranks.items
  have kept := congrArg Zipfian.base
    (Zipfian.bare_resize scattered.ranks scattered.ranks.items)
  have base : scattered.ranks.settled.base = 0 := kept.trans below.ranks.base
  rw [items] at selected
  refine ⟨rank, Zipfian.select_lt below.ranks.support base selected, ?_⟩
  have sum := checkedAdd_eq_ok_iff.mp placed
  rw [below.base, below.items, UInt64.toNat_zero, Nat.zero_add] at sum
  exact (UInt64.toNat_inj.mp sum).symm

end Scrambled
end StoreBench
