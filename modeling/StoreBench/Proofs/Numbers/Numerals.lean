import Mathlib.Algebra.Group.Nat.Defs
import StoreBench.Decimal.Read
import StoreBench.Proofs.Text.Trimmed

namespace StoreBench.Decimal

/-! Whole numbers as texts. Digits are read as the number that they stand for, up to a bound, and
what is written of a number is read as that number. -/

variable {bound value result : Nat} {beyond : WholeFault} {digits : List Char}

theorem digitsValue_eq (digits : List Char) : digitsValue digits = Nat.ofDigitChars 10 digits 0 :=
  rfl

theorem le_ofDigitChars (digits : List Char) (value : Nat) :
    value ≤ Nat.ofDigitChars 10 digits value := by
  rw [Nat.ofDigitChars_eq_ofDigitChars_zero]
  exact Nat.le_add_right_of_le (Nat.le_mul_of_pos_left value (Nat.pow_pos (by decide)))

/-- The bound is checked after each digit, but only the last check counts: the value never gets
smaller. -/
theorem boundedFrom_eq_ok_iff (within : value ≤ bound) :
    boundedFrom bound beyond value digits = .ok result ↔
      (∀ digit ∈ digits, digit.isDigit) ∧ Nat.ofDigitChars 10 digits value = result ∧
        result ≤ bound := by
  induction digits generalizing value with
  | nil =>
      simp only [boundedFrom, Except.ok.injEq, List.not_mem_nil, Nat.ofDigitChars_nil]
      constructor
      · rintro rfl
        exact ⟨nofun, rfl, within⟩
      · exact fun read => read.2.1
  | cons digit rest induction =>
      rw [boundedFrom, List.forall_mem_cons, Nat.ofDigitChars_cons]
      by_cases isDigit : digit.isDigit
      · by_cases above : bound < 10 * value + (digit.toNat - '0'.toNat)
        · simp only [isDigit, above, Bool.not_true, Bool.false_eq_true, if_false, if_true,
            reduceCtorEq, true_and, false_iff]
          rintro ⟨_, rfl, small⟩
          exact absurd (Nat.le_trans (le_ofDigitChars rest _) small) (Nat.not_le.mpr above)
        · simp only [isDigit, above, Bool.not_true, Bool.false_eq_true, if_false, true_and]
          exact induction (Nat.not_lt.mp above)
      · simp [isDigit]

theorem bounded_eq_ok_iff :
    bounded bound beyond digits = .ok result ↔
      digits ≠ [] ∧ (∀ digit ∈ digits, digit.isDigit) ∧ digitsValue digits = result ∧
        result ≤ bound := by
  unfold bounded
  split
  next empty => simp [List.isEmpty_iff.mp empty]
  next some =>
    rw [boundedFrom_eq_ok_iff (Nat.zero_le bound), List.isEmpty_iff] at *
    simp only [some, not_false_eq_true, ne_eq, true_and, digitsValue_eq]

/-- Digits that stand for a number beyond the bound are refused for nothing else. -/
theorem boundedFrom_of_lt (within : value ≤ bound) (all : ∀ digit ∈ digits, digit.isDigit)
    (above : bound < Nat.ofDigitChars 10 digits value) :
    boundedFrom bound beyond value digits = .error beyond := by
  induction digits generalizing value with
  | nil => exact absurd within (Nat.not_le.mpr above)
  | cons digit rest induction =>
      rw [List.forall_mem_cons] at all
      rw [boundedFrom, all.1, Bool.not_true, if_neg Bool.false_ne_true]
      dsimp only
      split
      next => rfl
      next small => exact induction (Nat.not_lt.mp small) all.2 above

theorem bounded_of_lt (some : digits ≠ []) (all : ∀ digit ∈ digits, digit.isDigit)
    (above : bound < digitsValue digits) : bounded bound beyond digits = .error beyond := by
  rw [bounded, if_neg (mt List.isEmpty_iff.mp some)]
  exact boundedFrom_of_lt (Nat.zero_le bound) all above

/-! ## Numbers with a sign or without -/

/-- No sign is a digit, so digits are read as those of a number that is not negative. -/
theorem readInteger_eq_bounded (some : digits ≠ []) (all : ∀ digit ∈ digits, digit.isDigit) :
    readInteger digits =
      (bounded (UInt64.size / 2 - 1) .tooLarge digits).map fun size : Nat => .ofInt size := by
  unfold readInteger
  split
  next => exact absurd rfl some
  next => exact absurd (all '-' List.mem_cons_self) (by decide)
  next => exact absurd (all '+' List.mem_cons_self) (by decide)
  next => cases bounded _ _ digits <;> rfl

theorem readInteger_of_plus (digits : List Char) :
    readInteger ('+' :: digits) =
      (bounded (UInt64.size / 2 - 1) .tooLarge digits).map fun size : Nat => .ofInt size := by
  rw [readInteger]
  cases bounded _ _ digits <;> rfl

theorem readNatural_eq_bounded (some : digits ≠ []) (all : ∀ digit ∈ digits, digit.isDigit) :
    readNatural digits = (bounded (UInt64.size - 1) .tooLarge digits).map .ofNat := by
  unfold readNatural
  split
  next => exact absurd rfl some
  next => exact absurd (all '+' List.mem_cons_self) (by decide)
  next => rfl

theorem readInteger_of_digits
    (read : bounded (UInt64.size / 2 - 1) .tooLarge digits = .ok result) :
    readInteger digits = .ok (.ofInt result) := by
  rcases bounded_eq_ok_iff.mp read with ⟨some, all, _⟩
  rw [readInteger_eq_bounded some all, read]
  rfl

theorem readInteger_of_minus
    (read : bounded (UInt64.size / 2) .tooSmall digits = .ok result) :
    readInteger ('-' :: digits) = .ok (.ofInt (-result)) := by
  simp only [readInteger, read]
  rfl

def IsNumeral (characters : List Char) (number : Nat) : Prop :=
  ∃ digits, (characters = digits ∨ characters = '+' :: digits) ∧ digits ≠ [] ∧
    (∀ digit ∈ digits, digit.isDigit) ∧ Nat.ofDigitChars 10 digits 0 = number

namespace IsNumeral

variable {characters : List Char} {number : Nat}

theorem readNatural_eq (numeral : IsNumeral characters number) (word : number < 2 ^ 64) :
    readNatural characters = .ok (.ofNat number) := by
  rcases numeral with ⟨digits, form, some, all, value⟩
  have read : bounded (UInt64.size - 1) .tooLarge digits = .ok number :=
    bounded_eq_ok_iff.mpr ⟨some, all, value, Nat.le_sub_one_of_lt word⟩
  rcases form with rfl | rfl
  · rw [readNatural_eq_bounded some all, read]
    rfl
  · rw [readNatural, read]
    rfl

/-- As a number that might have had a minus sign, only a numeral of the lower half of all words is
read. -/
theorem readInteger_eq (numeral : IsNumeral characters number) :
    readInteger characters =
      if number < 2 ^ 63 then .ok (.ofInt number) else .error .tooLarge := by
  rcases numeral with ⟨digits, form, some, all, value⟩
  have asInteger : readInteger characters =
      (bounded (UInt64.size / 2 - 1) .tooLarge digits).map fun size : Nat => .ofInt size := by
    rcases form with rfl | rfl
    · exact readInteger_eq_bounded some all
    · exact readInteger_of_plus digits
  rw [asInteger]
  split
  next half =>
    have within : number ≤ UInt64.size / 2 - 1 := Nat.le_sub_one_of_lt half
    rw [bounded_eq_ok_iff.mpr ⟨some, all, value, within⟩]
    rfl
  next beyond =>
    have above : UInt64.size / 2 - 1 < number :=
      Nat.lt_of_lt_of_le (by decide) (Nat.not_lt.mp beyond)
    rw [bounded_of_lt some all (Nat.lt_of_lt_of_eq above value.symm)]
    rfl

end IsNumeral

theorem bounded_toDigits {number : Nat} (within : number ≤ bound) :
    bounded bound beyond (Nat.toDigits 10 number) = .ok number :=
  bounded_eq_ok_iff.mpr ⟨Nat.toDigits_ne_nil,
    fun _ member => Nat.isDigit_of_mem_toDigits (by decide) (by decide) member,
    Nat.ofDigitChars_ten_toDigits, within⟩

theorem toList_toString_of_nonneg {number : Int} (nonneg : 0 ≤ number) :
    (toString number).toList = Nat.toDigits 10 number.toNat := by
  rw [Int.toString_eq_repr, Int.repr_eq_if, if_pos nonneg, Nat.repr_eq_ofList_toDigits,
    String.toList_ofList]

theorem toList_toString_of_neg {number : Int} (negative : ¬0 ≤ number) :
    (toString number).toList = '-' :: Nat.toDigits 10 (-number).toNat := by
  rw [Int.toString_eq_repr, Int.repr_eq_if, if_neg negative, Nat.repr_eq_ofList_toDigits,
    String.toList_append, String.toList_ofList]
  simp

theorem mem_toString {number : Int} {character : Char}
    (member : character ∈ (toString number).toList) : character = '-' ∨ character.isDigit := by
  by_cases nonneg : 0 ≤ number
  · rw [toList_toString_of_nonneg nonneg] at member
    exact .inr (Nat.isDigit_of_mem_toDigits (by decide) (by decide) member)
  · rw [toList_toString_of_neg nonneg] at member
    exact (List.mem_cons.mp member).imp_right
      (Nat.isDigit_of_mem_toDigits (by decide) (by decide))

theorem readInteger_toString (number : Int64) :
    readInteger (toString number.toInt).toList = .ok number := by
  have least := number.le_toInt
  have most := number.toInt_lt
  have half : UInt64.size / 2 = 2 ^ 63 := rfl
  by_cases nonneg : 0 ≤ number.toInt
  · rw [toList_toString_of_nonneg nonneg, readInteger_of_digits (bounded_toDigits (by omega)),
      Int.toNat_of_nonneg nonneg, Int64.ofInt_toInt]
  · rw [toList_toString_of_neg nonneg, readInteger_of_minus (bounded_toDigits (by omega)),
      Int.toNat_of_nonneg (by omega), Int.neg_neg, Int64.ofInt_toInt]

theorem trimChars_toString (number : Int) :
    trimChars (toString number).toList = (toString number).toList := by
  apply trimChars_eq_self
  intro character member
  rcases mem_toString member with rfl | digit
  · decide
  · exact not_isBlank_of_isDigit digit

theorem readBool?_toString (number : Int) : readBool? (toString number).toList = none := by
  have other (text : String) (letter : Char) (member : letter ∈ text.toList)
      (shown : letter ≠ '-' ∧ ¬letter.isDigit) : (toString number).toList ≠ text.toList := by
    intro same
    rw [← same] at member
    exact (mem_toString member).elim shown.1 shown.2
  have notTrue := other "true" 't' (by decide) (by decide)
  have notFalse := other "false" 'f' (by decide) (by decide)
  rw [readBool?, if_neg (by simpa using notTrue), if_neg (by simpa using notFalse)]

end StoreBench.Decimal
