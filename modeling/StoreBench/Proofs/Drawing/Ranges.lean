import StoreBench.Proofs.Drawing.Choices

namespace StoreBench

/-! Draws stay in their range. The product of a word and a count is split at the number of
words. Its upper part is below the count, also when a second word carries into it, since the
carry is only asked for when the lower part is great. -/

theorem carried_lt {width count word : Nat} (small : word < width)
    (near : width - count < word * count % width) : word * count / width + 1 < count := by
  have whole : width * (word * count / width) + word * count % width = word * count :=
    Nat.div_add_mod (word * count) width
  have most : word * count + count ≤ width * count := by
    rw [← Nat.succ_mul]
    exact Nat.mul_le_mul_right count small
  apply Nat.lt_of_not_le
  intro full
  -- The greatest product leaves no more below the last multiple than what is not carried.
  have last : width * count ≤ width * (word * count / width) + width := by
    rw [← Nat.mul_succ]
    exact Nat.mul_le_mul_left width full
  omega

theorem drawBelow_lt {σ : Type} {width count : Nat} {nextWord : σ → Nat × σ}
    (positive : 0 < count) (words : ∀ source, (nextWord source).1 < width) (source : σ) :
    (drawBelow width count nextWord source).1 < count := by
  have small := words source
  have upper : (nextWord source).1 * count / width < count := by
    rw [Nat.div_lt_iff_lt_mul (by omega), Nat.mul_comm count]
    exact Nat.mul_lt_mul_of_pos_right small positive
  unfold drawBelow
  dsimp only
  rw [if_neg (by omega)]
  split
  next near =>
    split
    · exact upper
    · exact carried_lt small near
  next => exact upper

theorem drawBelow_zero {σ : Type} {width : Nat} {nextWord : σ → Nat × σ} (source : σ) :
    drawBelow width 0 nextWord source = nextWord source := rfl

def nextNatural {σ : Type} [WordSource σ] (source : σ) : Nat × σ :=
  ((WordSource.nextWord source).1.toNat, (WordSource.nextWord source).2)

/-- A draw is an offset from the lower bound. With as many candidates as there are words,
every word is an offset. -/
theorem drawBetween_eq_add {σ : Type} [WordSource σ] {lower upper : UInt64}
    (ordered : lower ≤ upper) (source : σ) :
    ∃ offset ≤ upper.toNat - lower.toNat,
      (drawBetween lower upper source).1 = lower + .ofNat offset := by
  have count : (upper - lower + 1).toNat = (upper.toNat - lower.toNat + 1) % 2 ^ 64 := by
    rw [UInt64.toNat_add, UInt64.toNat_sub_of_le upper lower ordered, UInt64.toNat_one]
  have words (source : σ) : (nextNatural source).1 < UInt64.size :=
    (WordSource.nextWord source).1.toNat_lt_size
  refine ⟨(drawBelow UInt64.size (upper - lower + 1).toNat nextNatural source).1, ?_, rfl⟩
  by_cases all : (upper - lower + 1).toNat = 0
  · have word := words source
    rw [UInt64.size] at word
    rw [all, drawBelow_zero]
    omega
  · have below := drawBelow_lt (Nat.pos_of_ne_zero all) words source
    have most := Nat.mod_le (upper.toNat - lower.toNat + 1) (2 ^ 64)
    omega

theorem drawBetween_mem {σ : Type} [WordSource σ] {lower upper : UInt64} (ordered : lower ≤ upper)
    (source : σ) :
    lower ≤ (drawBetween lower upper source).1 ∧ (drawBetween lower upper source).1 ≤ upper := by
  rcases drawBetween_eq_add ordered source with ⟨offset, within, drawn⟩
  have bound := upper.toNat_lt
  rw [UInt64.le_iff_toNat_le] at ordered
  rw [drawn, UInt64.le_iff_toNat_le, UInt64.le_iff_toNat_le, UInt64.toNat_add,
    UInt64.toNat_ofNat']
  omega

end StoreBench
