import StoreBench.Proofs.Drawing.Bounds

namespace StoreBench

/-! Choices that are ready to be drawn from. What a draw needs, so that no arithmetic leaves the
range of words and no check fails, does not depend on earlier draws. The checks that a
configuration passes make all of its choices ready. -/

variable {σ : Type}

/-! ## Zipfian choices -/

namespace Zipfian

variable {zipfian : Zipfian} {items : UInt64}

/-- There is a supported number of items, and room for all of them above the base. -/
def Ready (zipfian : Zipfian) (items : UInt64) : Prop :=
  supported items ∧ zipfian.base.toNat + items.toNat ≤ 2 ^ 64

theorem ready_of_base {items : UInt64} (zero : zipfian.base = 0) (support : supported items) :
    zipfian.Ready items := by
  refine ⟨support, ?_⟩
  rw [zero, UInt64.toNat_zero, Nat.zero_add]
  exact Nat.le_of_lt items.toNat_lt

theorem supported_iff : supported items ↔ 2 ≤ items ∧ items < itemLimit := by
  simp [supported]

theorem supported_iff_toNat : supported items ↔ 2 ≤ items.toNat ∧ items.toNat < 2 ^ 40 := by
  rw [supported_iff, UInt64.le_iff_toNat_le, UInt64.lt_iff_toNat_lt]
  rfl

theorem exists_below_iff : (∃ zipfian, below items = .ok zipfian) ↔ supported items := by
  constructor
  · rintro ⟨zipfian, made⟩
    exact (below_of_ok made).support
  · intro support
    have checked := checkItems_eq_ok_iff.mpr support
    refine ⟨_, bind_eq_ok_iff.mpr ⟨(), checked, bind_eq_ok_iff.mpr ⟨(), ?_, rfl⟩⟩⟩
    rw [itemsBetween_sub_one support]
    exact checked

theorem Ready.drawAmong [WordSource σ] (ready : zipfian.Ready items) (source : σ) :
    ∃ value after rest, zipfian.drawAmong items source = .ok (value, after, rest) ∧
      ∃ offset < items, value.toNat = zipfian.base.toNat + offset.toNat := by
  rcases (zipfian.resize items).exists_offset ready.1 (drawFraction source).1 with
    ⟨offset, small, added⟩
  have room := ready.2
  have sum : (zipfian.base + offset).toNat = zipfian.base.toNat + offset.toNat := by
    have within := UInt64.lt_iff_toNat_lt.mp small
    rw [UInt64.toNat_add]
    omega
  rw [base_resize, checkedAdd_eq_ok_iff.mpr sum] at added
  exact ⟨_, _, _, drawAmong_eq_ok_iff.mpr ⟨ready.1, added, rfl, rfl⟩, offset, small, sum⟩

theorem ready_of_withTheta {lower upper : UInt64} {theta : Float}
    (made : withTheta lower upper theta = .ok zipfian) : zipfian.Ready zipfian.items := by
  have few := (items_of_withTheta made).2
  have bound := upper.toNat_lt
  rcases bind_eq_ok_iff.mp made with ⟨_, checked, made⟩
  cases made
  exact ⟨checkItems_eq_ok_iff.mp checked, by omega⟩

end Zipfian

theorem Latest.exists_upTo_iff {newest : UInt64} :
    (∃ recent, upTo newest = .ok recent) ↔ Zipfian.supported newest := by
  rw [← Zipfian.exists_below_iff]
  constructor
  · rintro ⟨recent, made⟩
    rcases bind_eq_ok_iff.mp made with ⟨ages, aged, _⟩
    exact ⟨ages, aged⟩
  · rintro ⟨ages, aged⟩
    exact ⟨_, bind_eq_ok_iff.mpr ⟨ages, aged, rfl⟩⟩

/-! ## Lengths -/

namespace LengthChoice

def Ready : LengthChoice → Prop
  | .constant _ | .uniform _ => True
  | .zipfian skewed => skewed.Ready skewed.items

theorem ready_bare (choice : LengthChoice) : choice.bare.Ready ↔ choice.Ready := by
  cases choice <;> exact Iff.rfl

theorem Ready.draw [WordSource σ] {choice : LengthChoice} (ready : choice.Ready) (source : σ) :
    ∃ length after rest, choice.draw source = .ok (length, after, rest) := by
  cases choice with
  | constant | uniform => exact ⟨_, _, _, rfl⟩
  | zipfian skewed =>
      rcases Zipfian.Ready.drawAmong ready source with ⟨length, after, rest, drawn, _⟩
      exact ⟨length, .zipfian after, rest, bind_eq_ok_iff.mpr ⟨_, drawn, rfl⟩⟩

theorem ready_of_upTo {greatest : UInt64} {choice : LengthChoice}
    (made : upTo greatest = .ok choice) : choice.Ready := by
  cases ordered : Uniform.between 1 greatest with
  | error fault => simp [upTo, ordered, Except.map] at made
  | ok even =>
      simp only [upTo, ordered, Except.map, Except.ok.injEq] at made
      rw [← made]
      trivial

theorem ready_of_mostlyShort {greatest : UInt64} {choice : LengthChoice}
    (made : mostlyShort greatest = .ok choice) : choice.Ready := by
  cases ranked : Zipfian.between 1 greatest with
  | error fault => simp [mostlyShort, ranked, Except.map] at made
  | ok skewed =>
      simp only [mostlyShort, ranked, Except.map, Except.ok.injEq] at made
      rw [← made]
      exact Zipfian.ready_of_withTheta ranked

theorem ready_of_values {name : String} {greatest : UInt64} {choice : LengthChoice}
    (made : ofValues name greatest = .ok choice) : choice.Ready := by
  unfold ofValues at made
  split at made
  · cases made
    trivial
  · exact ready_of_upTo made
  · exact ready_of_mostlyShort made
  · cases made

theorem ready_of_scans {name : String} {greatest : UInt64} {choice : LengthChoice}
    (made : ofScans name greatest = .ok choice) : choice.Ready := by
  unfold ofScans at made
  split at made
  · exact ready_of_upTo made
  · exact ready_of_mostlyShort made
  · cases made

end LengthChoice

/-! ## Keys -/

namespace Scrambled

variable {scattered : Scrambled}

theorem below_bare (scattered : Scrambled) :
    scattered.bare.Below scattered.items ↔ scattered.Below scattered.items := by
  have base : scattered.ranks.settled.base = scattered.ranks.base :=
    Zipfian.base_resize scattered.ranks scattered.ranks.items
  have items : scattered.ranks.settled.items = scattered.ranks.items :=
    Zipfian.resize_items scattered.ranks scattered.ranks.items
  constructor
  · rintro ⟨zero, _, support, ranksBase, ranksItems⟩
    exact ⟨zero, rfl, support, base.symm.trans ranksBase, items.symm.trans ranksItems⟩
  · rintro ⟨zero, _, support, ranksBase, ranksItems⟩
    exact ⟨zero, rfl, support, base.trans ranksBase, items.trans ranksItems⟩

theorem Below.draw [WordSource σ] (below : scattered.Below scattered.items) (source : σ) :
    ∃ number after rest, scattered.draw source = .ok (number, after, rest) := by
  have ready : scattered.ranks.Ready scattered.ranks.items :=
    Zipfian.ready_of_base below.ranks.base (below.ranks.items ▸ below.ranks.support)
  rcases ready.drawAmong source with ⟨rank, ranks, rest, ranked, _⟩
  have placed : scattered.place rank = .ok (hashWord rank % scattered.items) := by
    rw [place, below.base]
    exact checkedAdd_eq_ok_iff.mpr (by rw [UInt64.toNat_zero, Nat.zero_add])
  exact ⟨_, _, rest, draw_eq_ok_iff.mpr ⟨rank, ranks, ranked, placed, rfl⟩⟩

end Scrambled

namespace KeyChoice

def Ready (newest : UInt64) : KeyChoice → Prop
  | .uniform _ => True
  | .scrambled scattered => scattered.Below scattered.items
  | .latest recent => recent.ages.base = 0 ∧ Zipfian.supported newest

theorem ready_bare (choice : KeyChoice) (newest : UInt64) :
    choice.bare.Ready newest ↔ choice.Ready newest := by
  cases choice with
  | uniform | latest => exact Iff.rfl
  | scrambled scattered => exact Scrambled.below_bare scattered

theorem Ready.draw [WordSource σ] {choice : KeyChoice} {newest : UInt64}
    (ready : choice.Ready newest) (source : σ) :
    ∃ number after rest, choice.draw newest source = .ok (number, after, rest) := by
  cases choice with
  | uniform even => exact ⟨_, _, _, rfl⟩
  | scrambled scattered =>
      rcases (show scattered.Below scattered.items from ready).draw source with
        ⟨number, after, rest, drawn⟩
      exact ⟨number, _, rest, draw_scrambled_eq_ok_iff.mpr ⟨after, drawn, rfl⟩⟩
  | latest recent =>
      rcases (Zipfian.ready_of_base ready.1 ready.2).drawAmong source with
        ⟨age, ages, rest, aged, offset, small, value⟩
      -- The age is below the newest number, so it can be subtracted.
      have subtracted : checkedSub newest age = .ok (newest - age) := by
        rw [ready.1, UInt64.toNat_zero, Nat.zero_add] at value
        rw [UInt64.lt_iff_toNat_lt] at small
        rw [checkedSub, if_pos (UInt64.le_iff_toNat_le.mpr (by omega))]
      have drawn := Latest.draw_eq_ok_iff.mpr ⟨age, ages, aged, subtracted, rfl⟩
      exact ⟨newest - age, _, rest, bind_eq_ok_iff.mpr ⟨_, drawn, rfl⟩⟩

end KeyChoice

/-! ## Operations -/

theorem Weighted.exists_draw {α : Type} [WordSource σ] {weighted : Weighted α}
    (nonempty : weighted.entries ≠ []) (source : σ) :
    ∃ value after rest, weighted.draw source = .ok (value, after, rest) := by
  have some : (weighted.select? (drawFraction source).1).isSome := by
    simp [select?, nonempty, List.getLast?_isSome]
  rcases Option.isSome_iff_exists.mp some with ⟨value, selected⟩
  exact ⟨value, _, _, draw_eq_ok_iff.mpr ⟨selected, rfl, rfl⟩⟩

theorem exists_drawPrintable [WordSource σ] {length : Nat} (room : length < 2 ^ 63) (source : σ) :
    ∃ text rest, drawPrintable length source = .ok (text, rest) := by
  have capacity : checkCapacity 1 length = .ok () := by
    rw [checkCapacity, if_pos (by rw [UInt64.size]; omega)]
  exact ⟨_, _, bind_eq_ok_iff.mpr ⟨(), capacity, rfl⟩⟩

end StoreBench
