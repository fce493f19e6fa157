import StoreBench.Proofs.Drawing.Ready
import StoreBench.Proofs.Drawing.Recomputed

namespace StoreBench

/-! Histories of draws. Whatever the skew is and whatever was drawn before, draws stay within
their bounds, and the number drawn last is known. Nothing is said about sums and powers: the
offset from the base is kept below the number of items, and the rest is counting. -/

/-! ## Ranks -/

namespace Zipfian

inductive MadeBetween : UInt64 → UInt64 → Zipfian → Prop where
  | withTheta {lower upper : UInt64} {theta : Float} {zipfian : Zipfian}
      (made : withTheta lower upper theta = .ok zipfian) : MadeBetween lower upper zipfian
  | between {lower upper : UInt64} {zipfian : Zipfian}
      (made : between lower upper = .ok zipfian) : MadeBetween lower upper zipfian
  | below {items : UInt64} {zipfian : Zipfian} (made : below items = .ok zipfian) :
      MadeBetween 0 (items - 1) zipfian

/-- What a choice is after draws. They are listed with the latest first, each by the number of
items that it was among and the number that was drawn. -/
inductive After (first : Zipfian) : List (UInt64 × UInt64) → Zipfian → Prop where
  | start : After first [] first
  | draw {zipfian after : Zipfian} {draws : List (UInt64 × UInt64)} {value : UInt64} {σ : Type}
      [WordSource σ] {source rest : σ} (earlier : After first draws zipfian)
      (drawn : zipfian.draw source = .ok (value, after, rest)) :
      After first ((zipfian.items, value) :: draws) after
  | drawAmong {zipfian after : Zipfian} {draws : List (UInt64 × UInt64)} {items value : UInt64}
      {σ : Type} [WordSource σ] {source rest : σ} (earlier : After first draws zipfian)
      (drawn : zipfian.drawAmong items source = .ok (value, after, rest)) :
      After first ((items, value) :: draws) after

theorem MadeBetween.withTheta_eq {lower upper : UInt64} {zipfian : Zipfian}
    (made : MadeBetween lower upper zipfian) :
    ∃ theta, Zipfian.withTheta lower upper theta = .ok zipfian := by
  cases made with
  | withTheta made => exact ⟨_, made⟩
  | between made => exact ⟨defaultTheta, made⟩
  | below made =>
      rcases bind_eq_ok_iff.mp made with ⟨_, _, made⟩
      exact ⟨defaultTheta, made⟩

section Histories

variable {first zipfian after : Zipfian} {lower upper : UInt64} {draws : List (UInt64 × UInt64)}

theorem last_of_withTheta {theta : Float} (made : withTheta lower upper theta = .ok first) :
    first.last = lower := by
  rcases bind_eq_ok_iff.mp made with ⟨_, _, made⟩
  cases made
  rfl

theorem base_eq_of_bare (same : after.bare = zipfian.bare) : after.base = zipfian.base :=
  (congrArg Zipfian.base same : after.bare.base = zipfian.bare.base)

theorem items_eq_of_bare (same : after.bare = zipfian.bare) : after.items = zipfian.items :=
  (congrArg Zipfian.items same : after.bare.items = zipfian.bare.items)

theorem last_of_drawAmong {items value : UInt64} {σ : Type} [WordSource σ] {source rest : σ}
    (drawn : zipfian.drawAmong items source = .ok (value, after, rest)) : after.last = value := by
  rcases drawAmong_eq_ok_iff.mp drawn with ⟨_, _, rfl, _⟩
  rfl

namespace After

theorem reached (history : After first draws zipfian) : Reached first zipfian := by
  induction history with
  | start => exact .start
  | draw earlier drawn induction => exact induction.draw drawn
  | drawAmong earlier drawn induction => exact induction.drawAmong drawn

theorem base_eq (history : After first draws zipfian) : zipfian.base = first.base :=
  base_eq_of_bare history.reached.bare_eq

theorem items_eq (history : After first draws zipfian) : zipfian.items = first.items :=
  items_eq_of_bare history.reached.bare_eq

theorem last_eq (history : After first draws zipfian) :
    zipfian.last = (draws.head?.map Prod.snd).getD first.last := by
  cases history with
  | start => rfl
  | draw earlier drawn => exact last_of_drawAmong drawn
  | drawAmong earlier drawn => exact last_of_drawAmong drawn

theorem within (history : After first draws zipfian) :
    ∀ entry ∈ draws, first.base ≤ entry.2 ∧ entry.2.toNat < first.base.toNat + entry.1.toNat := by
  induction history with
  | start => exact nofun
  | draw earlier drawn induction =>
      have range := range_of_drawAmong drawn
      rw [earlier.base_eq] at range
      exact List.forall_mem_cons.mpr ⟨range, induction⟩
  | drawAmong earlier drawn induction =>
      have range := range_of_drawAmong drawn
      rw [earlier.base_eq] at range
      exact List.forall_mem_cons.mpr ⟨range, induction⟩

theorem exists_drawAmong {items : UInt64} {σ : Type} [WordSource σ]
    (history : After first draws zipfian) (support : supported items)
    (room : first.base.toNat + items.toNat ≤ 2 ^ 64) (source : σ) :
    ∃ value later rest, zipfian.drawAmong items source = .ok (value, later, rest) ∧
      first.base ≤ value ∧ value.toNat < first.base.toNat + items.toNat := by
  rw [← history.base_eq] at room ⊢
  rcases Ready.drawAmong ⟨support, room⟩ source with ⟨value, later, rest, drawn, _⟩
  exact ⟨value, later, rest, drawn, range_of_drawAmong drawn⟩

end After
end Histories
end Zipfian

/-! ## Scattered ranks -/

namespace Scrambled

inductive MadeBetween : UInt64 → UInt64 → Scrambled → Prop where
  | between {lower upper : UInt64} {scattered : Scrambled}
      (made : between lower upper = .ok scattered) : MadeBetween lower upper scattered
  | below {items : UInt64} {scattered : Scrambled} (made : below items = .ok scattered) :
      MadeBetween 0 (items - 1) scattered

inductive After (first : Scrambled) : List UInt64 → Scrambled → Prop where
  | start : After first [] first
  | draw {scattered after : Scrambled} {draws : List UInt64} {number : UInt64} {σ : Type}
      [WordSource σ] {source rest : σ} (earlier : After first draws scattered)
      (drawn : scattered.draw source = .ok (number, after, rest)) :
      After first (number :: draws) after

structure Within (lower upper : UInt64) (scattered : Scrambled) : Prop where
  base : scattered.base = lower
  room : scattered.base.toNat + scattered.items.toNat ≤ upper.toNat + 1
  ranks : scattered.ranks.Below scattered.items

section Histories

variable {first scattered after : Scrambled} {lower upper number : UInt64} {draws : List UInt64}

theorem MadeBetween.between_eq (made : MadeBetween lower upper scattered) :
    Scrambled.between lower upper = .ok scattered := by
  cases made with
  | between made => exact made
  | below made =>
      rcases bind_eq_ok_iff.mp made with ⟨_, _, made⟩
      exact made

theorem within_of_between (made : between lower upper = .ok scattered) :
    scattered.Within lower upper := by
  rcases bind_eq_ok_iff.mp made with ⟨ranks, ranked, made⟩
  cases made
  have below := Zipfian.below_of_ok ranked
  have least := UInt64.le_iff_toNat_le.mp (Zipfian.two_le_of_supported below.support)
  refine ⟨rfl, ?_, below⟩
  dsimp only
  by_cases ordered : lower ≤ upper
  · have few := Zipfian.itemsBetween_le ordered
    rw [UInt64.le_iff_toNat_le] at ordered
    omega
  · rw [Zipfian.itemsBetween, if_neg ordered] at least
    exact absurd least (by decide)

namespace Within

variable (within : scattered.Within lower upper)

include within

theorem exists_place (rank : UInt64) :
    ∃ number, scattered.place rank = .ok number ∧ lower ≤ number ∧ number ≤ upper := by
  have least := UInt64.le_iff_toNat_le.mp (Zipfian.two_le_of_supported within.ranks.support)
  have two : (2 : UInt64).toNat = 2 := rfl
  have small : (hashWord rank % scattered.items).toNat < scattered.items.toNat := by
    rw [UInt64.toNat_mod]
    exact Nat.mod_lt _ (by omega)
  have room := within.room
  have bound := upper.toNat_lt
  have sum : (scattered.base + hashWord rank % scattered.items).toNat =
      scattered.base.toNat + (hashWord rank % scattered.items).toNat := by
    rw [UInt64.toNat_add]
    omega
  refine ⟨_, checkedAdd_eq_ok_iff.mpr sum, ?_, ?_⟩
  · rw [← within.base, UInt64.le_iff_toNat_le, sum]
    exact Nat.le_add_right _ _
  · rw [UInt64.le_iff_toNat_le, sum]
    omega

theorem exists_draw {σ : Type} [WordSource σ] (source : σ) :
    ∃ number later rest, scattered.draw source = .ok (number, later, rest) ∧
      lower ≤ number ∧ number ≤ upper := by
  have ready : scattered.ranks.Ready scattered.ranks.items :=
    Zipfian.ready_of_base within.ranks.base (within.ranks.items ▸ within.ranks.support)
  rcases ready.drawAmong source with ⟨rank, ranks, rest, ranked, _⟩
  rcases within.exists_place rank with ⟨number, placed, range⟩
  exact ⟨number, _, rest, draw_eq_ok_iff.mpr ⟨rank, ranks, ranked, placed, rfl⟩, range⟩

theorem of_draw {σ : Type} [WordSource σ] {source rest : σ}
    (drawn : scattered.draw source = .ok (number, after, rest)) :
    after.Within lower upper ∧ after.last = .ok number ∧ lower ≤ number ∧ number ≤ upper := by
  rcases draw_eq_ok_iff.mp drawn with ⟨rank, ranks, ranked, placed, rfl⟩
  have same := Zipfian.bare_drawAmong ranked
  have base := Zipfian.base_eq_of_bare same
  have items := Zipfian.items_eq_of_bare same
  rcases within.exists_place rank with ⟨_, again, range⟩
  cases placed.symm.trans again
  refine ⟨⟨within.base, within.room, within.ranks.support, base.trans within.ranks.base,
    items.trans within.ranks.items⟩, ?_, range⟩
  rw [last, Zipfian.last_of_drawAmong ranked]
  exact placed

end Within

namespace After

theorem within (start : first.Within lower upper) (history : After first draws scattered) :
    scattered.Within lower upper ∧ ∀ number ∈ draws, lower ≤ number ∧ number ≤ upper := by
  induction history with
  | start => exact ⟨start, nofun⟩
  | draw earlier drawn induction =>
      rcases induction with ⟨within, range⟩
      rcases within.of_draw drawn with ⟨later, _, latest⟩
      exact ⟨later, List.forall_mem_cons.mpr ⟨latest, range⟩⟩

theorem last_eq (start : first.Within lower upper) (history : After first draws scattered) :
    ∀ number ∈ draws.head?, scattered.last = .ok number := by
  cases history with
  | start => exact nofun
  | draw earlier drawn =>
      rintro _ ⟨⟩
      exact ((earlier.within start).1.of_draw drawn).2.1

end After
end Histories
end Scrambled

/-! ## Bounds -/

/-- For any skew and any words, and whatever was drawn before, draws from a choice between two
bounds are between them, draws among another number of items are that close to the lower bound,
and the number drawn last is known. The same is true of scattered draws. -/
theorem draws_in_range :
    (∀ {lower upper : UInt64} {first zipfian : Zipfian} {draws : List (UInt64 × UInt64)},
      Zipfian.MadeBetween lower upper first → first.After draws zipfian →
      (∀ entry ∈ draws, lower ≤ entry.2 ∧ entry.2.toNat < lower.toNat + entry.1.toNat) ∧
      zipfian.last = (draws.head?.map Prod.snd).getD lower ∧
      (∀ {σ : Type} [WordSource σ] (source : σ), ∃ value later rest,
        zipfian.draw source = .ok (value, later, rest) ∧ lower ≤ value ∧ value ≤ upper) ∧
      ∀ items : UInt64, 2 ≤ items.toNat → items.toNat < 2 ^ 40 →
        lower.toNat + items.toNat - 1 < 2 ^ 64 →
        ∀ {σ : Type} [WordSource σ] (source : σ), ∃ value later rest,
          zipfian.drawAmong items source = .ok (value, later, rest) ∧
          lower ≤ value ∧ value.toNat ≤ lower.toNat + items.toNat - 1) ∧
    ∀ {lower upper : UInt64} {first scattered : Scrambled} {draws : List UInt64},
      Scrambled.MadeBetween lower upper first → first.After draws scattered →
      (∀ number ∈ draws, lower ≤ number ∧ number ≤ upper) ∧
      (∀ number ∈ draws.head?, scattered.last = .ok number) ∧
      ∀ {σ : Type} [WordSource σ] (source : σ), ∃ number later rest,
        scattered.draw source = .ok (number, later, rest) ∧ lower ≤ number ∧ number ≤ upper := by
  constructor
  · intro lower upper first zipfian draws made history
    rcases made.withTheta_eq with ⟨theta, made⟩
    rcases Zipfian.items_of_withTheta made with ⟨rfl, few⟩
    have ready := Zipfian.ready_of_withTheta made
    refine ⟨history.within, Zipfian.last_of_withTheta made ▸ history.last_eq, ?_, ?_⟩
    · intro σ _ source
      rcases history.exists_drawAmong ready.1 ready.2 source with
        ⟨value, later, rest, drawn, least, most⟩
      rw [Zipfian.draw, history.items_eq]
      exact ⟨value, later, rest, drawn, least, UInt64.le_iff_toNat_le.mpr (by omega)⟩
    · intro items least most room σ _ source
      rcases history.exists_drawAmong (Zipfian.supported_iff_toNat.mpr ⟨least, most⟩) (by omega)
        source with ⟨value, later, rest, drawn, range⟩
      exact ⟨value, later, rest, drawn, range.1, by omega⟩
  · intro lower upper first scattered draws made history
    have start := Scrambled.within_of_between made.between_eq
    rcases history.within start with ⟨within, range⟩
    exact ⟨range, history.last_eq start, fun source => within.exists_draw source⟩

/-- Eight numbers up to the greatest word, with a skew that is no number: a draw, and one among
the first three after it. -/
theorem draws_in_range_topmost :
    ∃ (first : Zipfian) (scattered : Scrambled),
      Zipfian.withTheta 18446744073709551608 18446744073709551615 (0 / 0) = .ok first ∧
      Scrambled.between 18446744073709551608 18446744073709551615 = .ok scattered ∧
      ∀ words : Nat → UInt64,
        (∃ value again after later rest others, first.draw words = .ok (value, after, rest) ∧
          18446744073709551608 ≤ value ∧ after.last = value ∧
          after.drawAmong 3 rest = .ok (again, later, others) ∧
          again.toNat ≤ 18446744073709551610) ∧
        ∃ number after rest, scattered.draw words = .ok (number, after, rest) ∧
          18446744073709551608 ≤ number ∧ after.last = .ok number := by
  have support : Zipfian.supported
      (Zipfian.itemsBetween 18446744073709551608 18446744073709551615) := by decide
  have made : Zipfian.withTheta 18446744073709551608 18446744073709551615 (0 / 0) = .ok _ :=
    bind_eq_ok_iff.mpr ⟨(), Zipfian.checkItems_eq_ok_iff.mpr support, rfl⟩
  rcases Zipfian.exists_below_iff.mpr support with ⟨ranks, below⟩
  have scattered : Scrambled.between 18446744073709551608 18446744073709551615 = .ok _ :=
    bind_eq_ok_iff.mpr ⟨ranks, below, rfl⟩
  refine ⟨_, _, made, scattered, fun words => ⟨?_, ?_⟩⟩
  · rcases (draws_in_range.1 (.withTheta made) .start).2.2.1 words with
      ⟨value, after, rest, drawn, least, _⟩
    rcases draws_in_range.1 (.withTheta made) (.draw .start drawn) with ⟨_, last, _, among⟩
    rcases among 3 (by decide) (by decide) (by decide) rest with
      ⟨again, later, others, redrawn, _, most⟩
    exact ⟨value, again, after, later, rest, others, drawn, least, last, redrawn, most⟩
  · rcases (draws_in_range.2 (.between scattered) .start).2.2 words with
      ⟨number, after, rest, drawn, least, _⟩
    exact ⟨number, after, rest, drawn, least,
      (draws_in_range.2 (.between scattered) (.draw .start drawn)).2.1 _ rfl⟩

end StoreBench
