import StoreBench.Proofs.Drawing.InUse

namespace StoreBench

/-! Bounds of draws. Whatever the words are, a choice of lengths draws between its bounds, and a
text is drawn from printable characters, as many as wanted. -/

variable {σ : Type}

/-! ## Lengths -/

namespace Zipfian

theorem itemsBetween_le {lower upper : UInt64} (ordered : lower ≤ upper) :
    (itemsBetween lower upper).toNat ≤ upper.toNat - lower.toNat + 1 := by
  have difference := UInt64.toNat_sub_of_le upper lower ordered
  rw [itemsBetween, if_pos ordered]
  split
  next full =>
    rw [full] at difference
    rw [← difference]
    exact Nat.le_succ _
  next =>
    rw [UInt64.toNat_add, difference, UInt64.toNat_one]
    exact Nat.mod_le _ _

theorem items_of_withTheta {lower upper : UInt64} {theta : Float} {zipfian : Zipfian}
    (made : withTheta lower upper theta = .ok zipfian) :
    zipfian.base = lower ∧ zipfian.base.toNat + zipfian.items.toNat ≤ upper.toNat + 1 := by
  rcases bind_eq_ok_iff.mp made with ⟨_, checked, made⟩
  have least := two_le_of_supported (checkItems_eq_ok_iff.mp checked)
  cases made
  refine ⟨rfl, ?_⟩
  dsimp only
  by_cases ordered : lower ≤ upper
  · have few := itemsBetween_le ordered
    rw [UInt64.le_iff_toNat_le] at ordered
    omega
  · rw [itemsBetween, if_neg ordered] at least
    exact absurd least (by decide)

variable [WordSource σ]

theorem base_resize (zipfian : Zipfian) (items : UInt64) :
    (zipfian.resize items).base = zipfian.base :=
  (congrArg Zipfian.base (bare_resize zipfian items) :
    (zipfian.resize items).bare.base = zipfian.bare.base)

theorem range_of_drawAmong {zipfian after : Zipfian} {items value : UInt64} {source rest : σ}
    (drawn : zipfian.drawAmong items source = .ok (value, after, rest)) :
    zipfian.base ≤ value ∧ value.toNat < zipfian.base.toNat + items.toNat := by
  rcases drawAmong_eq_ok_iff.mp drawn with ⟨support, selected, _⟩
  rcases exists_offset (zipfian.resize items) support (drawFraction source).1 with
    ⟨offset, small, added⟩
  rw [added, base_resize] at selected
  have sum := checkedAdd_eq_ok_iff.mp selected
  rw [UInt64.lt_iff_toNat_lt] at small
  rw [UInt64.le_iff_toNat_le]
  omega

end Zipfian

namespace LengthChoice

def Admits : LengthChoice → UInt64 → Prop
  | .constant fixed, length => length = fixed
  | .uniform even, length => even.lower ≤ length ∧ length ≤ even.upper
  | .zipfian skewed, length =>
      skewed.base ≤ length ∧ length.toNat < skewed.base.toNat + skewed.items.toNat

theorem admits_bare (choice : LengthChoice) : choice.bare.Admits = choice.Admits := by
  cases choice <;> rfl

theorem admits_of_draw [WordSource σ] {choice after : LengthChoice} {length : UInt64}
    {source rest : σ} (drawn : choice.draw source = .ok (length, after, rest)) :
    choice.Admits length := by
  cases choice with
  | constant fixed =>
      cases drawn
      rfl
  | uniform even =>
      cases drawn
      exact drawBetween_mem even.lower_le_upper source
  | zipfian skewed =>
      rcases bind_eq_ok_iff.mp drawn with ⟨_, ranked, equal⟩
      cases equal
      exact Zipfian.range_of_drawAmong ranked

theorem admits_of_draw_of_bare [WordSource σ] {choice after first : LengthChoice}
    {length : UInt64} {source rest : σ} (same : choice.bare = first.bare)
    (drawn : choice.draw source = .ok (length, after, rest)) : first.Admits length := by
  rw [← admits_bare, ← same, admits_bare]
  exact admits_of_draw drawn

theorem le_of_upTo {greatest length : UInt64} {choice : LengthChoice}
    (made : upTo greatest = .ok choice) (admits : choice.Admits length) :
    1 ≤ length ∧ length ≤ greatest := by
  unfold upTo Uniform.between at made
  split at made <;> cases made
  exact admits

theorem le_of_mostlyShort {greatest length : UInt64} {choice : LengthChoice}
    (made : mostlyShort greatest = .ok choice) (admits : choice.Admits length) :
    1 ≤ length ∧ length ≤ greatest := by
  cases ranked : Zipfian.between 1 greatest with
  | error fault => simp [mostlyShort, ranked, Except.map] at made
  | ok skewed =>
      simp only [mostlyShort, ranked, Except.map, Except.ok.injEq] at made
      subst made
      rcases Zipfian.items_of_withTheta ranked with ⟨base, few⟩
      rcases admits with ⟨lower, upper⟩
      refine ⟨base ▸ lower, ?_⟩
      rw [UInt64.le_iff_toNat_le]
      omega

end LengthChoice

/-! ## Texts -/

theorem nextHalfWord_lt [WordSource σ] (source : σ) : (nextHalfWord source).1 < UInt32.size := by
  have bound := (WordSource.nextWord source).1.toNat_lt
  simp only [nextHalfWord, UInt64.toNat_shiftRight, Nat.shiftRight_eq_div_pow, UInt32.size]
  exact Nat.div_lt_of_lt_mul bound

theorem toNat_drawPrintableChar [WordSource σ] (source : σ) :
    33 ≤ (drawPrintableChar source).1.toNat ∧ (drawPrintableChar source).1.toNat ≤ 126 := by
  have positive : 0 < printableCount := by decide
  have small := drawBelow_lt positive nextHalfWord_lt source
  rcases drawn : drawBelow UInt32.size printableCount nextHalfWord source with ⟨offset, rest⟩
  rw [drawn, printableCount] at small
  have valid : (33 + offset).isValidChar := .inl (by omega)
  have character : (drawPrintableChar source).1 = Char.ofNat (33 + offset) := by
    simp only [drawPrintableChar, drawn]
  have number : (Char.ofNat (33 + offset)).toNat = 33 + offset := by
    rw [show Char.ofNat (33 + offset) = Char.ofNatAux _ valid from dif_pos valid]
    rfl
  rw [character, number]
  omega

theorem toNat_of_mem_drawPrintableChars [WordSource σ] {length : Nat} {source : σ}
    {character : Char} (member : character ∈ (drawPrintableChars length source).1) :
    33 ≤ character.toNat ∧ character.toNat ≤ 126 := by
  induction length generalizing source with
  | zero => cases member
  | succ length induction =>
      rcases List.mem_cons.mp member with rfl | member
      · exact toNat_drawPrintableChar source
      · exact induction member

@[simp] theorem length_drawPrintableChars [WordSource σ] (length : Nat) (source : σ) :
    (drawPrintableChars length source).1.length = length := by
  induction length generalizing source with
  | zero => rfl
  | succ length induction => simp [drawPrintableChars, induction]

theorem text_of_drawPrintable [WordSource σ] {length : Nat} {source rest : σ} {text : String}
    (drawn : drawPrintable length source = .ok (text, rest)) :
    text.length = length ∧
      ∀ character ∈ text.toList, 33 ≤ character.toNat ∧ character.toNat ≤ 126 := by
  rcases bind_eq_ok_iff.mp drawn with ⟨_, _, equal⟩
  cases equal
  refine ⟨?_, ?_⟩
  · rw [String.length_ofList, length_drawPrintableChars]
  · intro character member
    rw [String.toList_ofList] at member
    exact toNat_of_mem_drawPrintableChars member

end StoreBench
