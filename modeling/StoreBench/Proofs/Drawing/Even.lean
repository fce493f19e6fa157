import StoreBench.Proofs.Drawing.Ranges

namespace StoreBench

/-! Even draws cover their bounds. Every number between them is drawn from some words, and no draw
takes more than two. -/

/-! ## Words -/

section Words

variable {σ : Type} {width count offset : Nat}

theorem drawBelow_rest (width count : Nat) (nextWord : σ → Nat × σ) (source : σ) :
    (drawBelow width count nextWord source).2 = (nextWord source).2 ∨
      (drawBelow width count nextWord source).2 = (nextWord (nextWord source).2).2 := by
  unfold drawBelow
  dsimp only
  split
  next => exact .inl rfl
  next =>
    split
    next =>
      right
      split <;> rfl
    next => exact .inl rfl

/-- The draw that two words make. The second one carries into the upper part of the product only if
the lower part is close enough to the next multiple of the width. -/
def offsetOf (width count first second : Nat) : Nat :=
  if count = 0 then first
  else if width - count < first * count % width ∧
      width ≤ first * count % width + second * count / width then
    first * count / width + 1
  else first * count / width

theorem drawBelow_fst (width count : Nat) (nextWord : σ → Nat × σ) (source : σ) :
    (drawBelow width count nextWord source).1 =
      offsetOf width count (nextWord source).1 (nextWord (nextWord source).2).1 := by
  unfold drawBelow offsetOf
  dsimp only
  split
  next => rfl
  next =>
    split
    next near =>
      split
      next short => rw [if_neg fun carries => Nat.not_le.mpr short carries.2]
      next carries => rw [if_pos ⟨near, Nat.not_lt.mp carries⟩]
    next far => rw [if_neg fun carries => far carries.1]

def leastWord (width count offset : Nat) : Nat := (offset * width + count - 1) / count

theorem leastWord_bounds (width offset : Nat) (positive : 0 < count) :
    offset * width ≤ leastWord width count offset * count ∧
      leastWord width count offset * count < offset * width + count := by
  have most := Nat.div_mul_le_self (offset * width + count - 1) count
  have least := Nat.lt_div_mul_add (a := offset * width + count - 1) positive
  unfold leastWord
  omega

theorem leastWord_lt (small : offset < count) (fits : count ≤ width) :
    leastWord width count offset < width := by
  have most : offset * width + width ≤ width * count := by
    rw [← Nat.succ_mul, Nat.mul_comm width]
    exact Nat.mul_le_mul_right width small
  rw [leastWord, Nat.div_lt_iff_lt_mul (Nat.zero_lt_of_lt small)]
  omega

/-- An offset is drawn from its least word. The product is past the multiple of the width by less
than the count, and a second word of zero carries nothing. -/
theorem offsetOf_leastWord (small : offset < count) (fits : count ≤ width) :
    offsetOf width count (leastWord width count offset) 0 = offset := by
  have positive : 0 < count := Nat.zero_lt_of_lt small
  rcases leastWord_bounds width offset positive with ⟨least, most⟩
  have upper : leastWord width count offset * count / width = offset := by
    apply Nat.div_eq_of_lt_le least
    rw [Nat.succ_mul]
    omega
  have lower : leastWord width count offset * count % width < width :=
    Nat.mod_lt _ (Nat.lt_of_lt_of_le positive fits)
  rw [offsetOf, if_neg (Nat.ne_of_gt positive), upper, Nat.zero_mul, Nat.zero_div, Nat.add_zero,
    if_neg fun carries => Nat.not_le.mpr lower carries.2]

end Words

/-! ## Numbers between bounds -/

section Supplies

variable {σ τ : Type} [WordSource σ] [WordSource τ] {source : σ} {other : τ}
variable {lower upper number : UInt64}

def upcomingWords {σ : Type} [WordSource σ] : Nat → σ → List UInt64
  | 0, _ => []
  | count + 1, source =>
      (WordSource.nextWord source).1 :: upcomingWords count (WordSource.nextWord source).2

def skipWords {σ : Type} [WordSource σ] : Nat → σ → σ
  | 0, source => source
  | count + 1, source => skipWords count (WordSource.nextWord source).2

theorem drawBetween_eq (lower upper : UInt64) (source : σ) :
    drawBetween lower upper source =
      (lower + .ofNat (drawBelow UInt64.size (upper - lower + 1).toNat nextNatural source).1,
        (drawBelow UInt64.size (upper - lower + 1).toNat nextNatural source).2) := rfl

theorem drawBetween_rest (lower upper : UInt64) (source : σ) :
    (drawBetween lower upper source).2 = skipWords 1 source ∨
      (drawBetween lower upper source).2 = skipWords 2 source :=
  drawBelow_rest UInt64.size (upper - lower + 1).toNat nextNatural source

theorem drawBetween_congr (same : upcomingWords 2 source = upcomingWords 2 other) :
    (drawBetween lower upper source).1 = (drawBetween lower upper other).1 := by
  simp only [upcomingWords, List.cons.injEq, and_true] at same
  simp only [drawBetween_eq, drawBelow_fst, nextNatural, same.1, same.2]

theorem exists_word_of_between (least : lower ≤ number) (most : number ≤ upper) :
    ∃ word, ∀ {σ : Type} [WordSource σ] {source : σ}, upcomingWords 2 source = [word, 0] →
      (drawBetween lower upper source).1 = number := by
  have ordered := UInt64.le_trans least most
  have count : (upper - lower + 1).toNat = (upper.toNat - lower.toNat + 1) % 2 ^ 64 := by
    rw [UInt64.toNat_add, UInt64.toNat_sub_of_le upper lower ordered, UInt64.toNat_one]
  have place : lower + .ofNat (number - lower).toNat = number := by
    rw [UInt64.ofNat_toNat, UInt64.add_comm, UInt64.sub_add_cancel]
  by_cases all : (upper - lower + 1).toNat = 0
  · refine ⟨number - lower, fun {σ} _ source words => ?_⟩
    simp only [upcomingWords, List.cons.injEq] at words
    rw [drawBetween_eq, all, drawBelow_zero, nextNatural, words.1]
    exact place
  · have small : (number - lower).toNat < (upper - lower + 1).toNat := by
      rw [UInt64.toNat_sub_of_le number lower least]
      rw [UInt64.le_iff_toNat_le] at least most
      have bound := upper.toNat_lt
      omega
    have fits : (upper - lower + 1).toNat ≤ UInt64.size :=
      Nat.le_of_lt (upper - lower + 1).toNat_lt_size
    refine ⟨.ofNat (leastWord UInt64.size (upper - lower + 1).toNat (number - lower).toNat),
      fun {σ} _ source words => ?_⟩
    simp only [upcomingWords, List.cons.injEq] at words
    have offset : (drawBelow UInt64.size (upper - lower + 1).toNat nextNatural source).1 =
        (number - lower).toNat := by
      rw [drawBelow_fst, nextNatural, nextNatural, words.1, words.2.1,
        UInt64.toNat_ofNat_of_lt' (leastWord_lt small fits)]
      exact offsetOf_leastWord small fits
    rw [drawBetween_eq, offset]
    exact place

end Supplies

/-! ## Histories of draws -/

namespace Uniform

section Draws

variable {σ τ : Type} [WordSource σ] [WordSource τ]

theorem draw_fst (uniform : Uniform) (source : σ) :
    (uniform.draw source).1 = (drawBetween uniform.lower uniform.upper source).1 := rfl

theorem draw_mem (uniform : Uniform) (source : σ) :
    uniform.lower ≤ (uniform.draw source).1 ∧ (uniform.draw source).1 ≤ uniform.upper :=
  drawBetween_mem uniform.lower_le_upper source

theorem draw_rest (uniform : Uniform) (source : σ) :
    (uniform.draw source).2.2 = skipWords 1 source ∨
      (uniform.draw source).2.2 = skipWords 2 source :=
  drawBetween_rest uniform.lower uniform.upper source

theorem draw_congr (uniform : Uniform) {source : σ} {other : τ}
    (same : upcomingWords 2 source = upcomingWords 2 other) :
    (uniform.draw source).1 = (uniform.draw other).1 := by
  rw [draw_fst, draw_fst, drawBetween_congr same]

end Draws

inductive After (first : Uniform) : List UInt64 → Uniform → Prop where
  | start : After first [] first
  | draw {uniform after : Uniform} {draws : List UInt64} {number : UInt64} {σ : Type}
      [WordSource σ] {source rest : σ} (earlier : After first draws uniform)
      (drawn : uniform.draw source = (number, after, rest)) :
      After first (number :: draws) after

namespace After

variable {first uniform : Uniform} {draws : List UInt64}

theorem bare_eq (history : After first draws uniform) : uniform.bare = first.bare := by
  induction history with
  | start => rfl
  | draw earlier drawn induction =>
      cases drawn
      exact induction

theorem lower_eq (history : After first draws uniform) : uniform.lower = first.lower :=
  (congrArg Uniform.lower history.bare_eq : uniform.bare.lower = first.bare.lower)

theorem upper_eq (history : After first draws uniform) : uniform.upper = first.upper :=
  (congrArg Uniform.upper history.bare_eq : uniform.bare.upper = first.bare.upper)

theorem last_eq (history : After first draws uniform) :
    uniform.last = draws.head?.getD first.last := by
  cases history with
  | start => rfl
  | draw earlier drawn =>
      cases drawn
      rfl

theorem within (history : After first draws uniform) :
    ∀ number ∈ draws, first.lower ≤ number ∧ number ≤ first.upper := by
  induction history with
  | start => exact nofun
  | @draw uniform _ _ _ _ _ source _ earlier drawn induction =>
      have range := uniform.draw_mem source
      rw [earlier.lower_eq, earlier.upper_eq, drawn] at range
      exact List.forall_mem_cons.mpr ⟨range, induction⟩

end After

/-- Between two bounds in order, an even choice can be made. Whatever was drawn from it before,
a draw takes one word or two, and depends on no others. It is between the bounds, the last draw is
known, and every number between the bounds is drawn from some words. -/
theorem draws_cover_bounds {lower upper : UInt64} (ordered : lower ≤ upper) :
    ∃ first, between lower upper = .ok first ∧
      ∀ {draws : List UInt64} {uniform : Uniform}, first.After draws uniform →
        (∀ number ∈ draws, lower ≤ number ∧ number ≤ upper) ∧
        uniform.last = draws.head?.getD lower ∧
        (∀ {σ : Type} [WordSource σ] (source : σ),
          lower ≤ (uniform.draw source).1 ∧ (uniform.draw source).1 ≤ upper ∧
          ((uniform.draw source).2.2 = skipWords 1 source ∨
            (uniform.draw source).2.2 = skipWords 2 source) ∧
          ∀ {τ : Type} [WordSource τ] (other : τ), upcomingWords 2 source = upcomingWords 2 other →
            (uniform.draw source).1 = (uniform.draw other).1) ∧
        ∀ number, lower ≤ number → number ≤ upper →
          ∃ words : Nat → UInt64, (uniform.draw words).1 = number := by
  refine ⟨⟨lower, upper, lower, ordered⟩, dif_pos ordered, fun {draws uniform} history => ?_⟩
  have lowerEq : uniform.lower = lower := history.lower_eq
  have upperEq : uniform.upper = upper := history.upper_eq
  refine ⟨history.within, history.last_eq, fun {σ} _ source => ?_, fun number least most => ?_⟩
  · have range := uniform.draw_mem source
    rw [lowerEq, upperEq] at range
    exact ⟨range.1, range.2, uniform.draw_rest source, fun _ same => uniform.draw_congr same⟩
  · rw [← lowerEq] at least
    rw [← upperEq] at most
    rcases exists_word_of_between least most with ⟨word, draws⟩
    exact ⟨fun index => if index = 0 then word else 0, (uniform.draw_fst _).trans (draws rfl)⟩

/-- Among all words, where the count of candidates wraps to zero, and among one. -/
theorem draws_cover_bounds_extremes :
    (∃ first, between 0 18446744073709551615 = .ok first ∧
      ∀ number, ∃ words : Nat → UInt64, (first.draw words).1 = number ∧
        (first.draw words).2.1.last = number) ∧
    ∃ first, between 18446744073709551615 18446744073709551615 = .ok first ∧
      ∀ words : Nat → UInt64, (first.draw words).1 = 18446744073709551615 := by
  constructor
  · have ordered : (0 : UInt64) ≤ 18446744073709551615 := by decide
    rcases draws_cover_bounds ordered with ⟨first, made, draws⟩
    refine ⟨first, made, fun number => ?_⟩
    have most : number ≤ 18446744073709551615 :=
      UInt64.le_iff_toNat_le.mpr (Nat.le_of_lt_succ number.toNat_lt)
    rcases (draws .start).2.2.2 number UInt64.zero_le most with ⟨words, drawn⟩
    exact ⟨words, drawn, (draws (.draw .start rfl)).2.1.trans drawn⟩
  · have ordered : (18446744073709551615 : UInt64) ≤ 18446744073709551615 := by decide
    rcases draws_cover_bounds ordered with ⟨first, made, draws⟩
    refine ⟨first, made, fun words => ?_⟩
    rcases (draws .start).2.2.1 words with ⟨least, most, _⟩
    exact UInt64.le_antisymm most least

end Uniform
end StoreBench
