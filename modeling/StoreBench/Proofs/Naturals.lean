import StoreBench.Proofs.Getters
import StoreBench.Proofs.Numbers.Numerals

namespace StoreBench.Properties

/-! Natural numbers as texts. The getter for natural numbers reads an integer first, so it takes a
numeral of the lower half of all words, and refuses one of the upper half, which the reader of
natural numbers itself would take. -/

open Decimal (IsNumeral)
open Toml (Value)

variable {α : Type} {properties : Properties} {key content : String} {number : Nat}

def GetsUnder (key : String) (properties : Properties)
    (get : Properties → String → Except Failure α) (result : Except Failure α) : Prop :=
  get properties key = result ∧ ∀ default, orDefault get properties key default = result

theorem getsUnder_iff_of_find? {get : Properties → String → Except Failure α}
    {result : Except Failure α} {value : Value}
    (found : Entries.find? properties.table key = some value) :
    GetsUnder key properties get result ↔ get properties key = result := by
  constructor
  · exact And.left
  · intro gets
    exact ⟨gets, fun default => by rw [orDefault_of_find? found, gets]⟩

theorem getInteger_of_text {result : Int64}
    (held : Entries.find? properties.table key = some (.text content))
    (read : Decimal.readInteger (trimChars content.toList) = .ok result) :
    properties.getInteger key = .ok result := by
  rw [getInteger_of_find? held, readAs, integerOf?, read]
  rfl

theorem getInteger_of_fault {fault : Decimal.WholeFault}
    (held : Entries.find? properties.table key = some (.text content))
    (read : Decimal.readInteger (trimChars content.toList) = .error fault) :
    properties.getInteger key = .error (.refused (.invalidValue key content "an integer")) := by
  rw [getInteger_of_find? held, readAs, integerOf?, read]
  rfl

section Numeral

variable (held : Entries.find? properties.table key = some (.text content))
variable (numeral : IsNumeral (trimChars content.toList) number)

include held numeral

theorem getNatural_of_lower (lower : number < 2 ^ 63) :
    properties.getNatural key = .ok (.ofNat number) := by
  have read := numeral.readInteger_eq
  rw [if_pos lower] at read
  have toInt : (Int64.ofInt number).toInt = number :=
    Int64.toInt_ofInt_of_le (by omega) (by omega)
  have nonneg : (0 : Int64) ≤ .ofInt number := by
    rw [Int64.le_iff_toInt_le, toInt]
    exact Int.natCast_nonneg number
  have word : (Int64.ofInt number).toUInt64 = .ofNat number := by
    rw [Int64.ofInt_eq_ofNat, Int64.toUInt64_ofNat']
  rw [getNatural, getInteger_of_text held read]
  show (if _ then pure _ else _) = _
  rw [if_pos nonneg, word]
  rfl

theorem getNatural_of_upper (upper : 2 ^ 63 ≤ number) :
    properties.getNatural key = .error (.refused (.invalidValue key content "an integer")) := by
  have read := numeral.readInteger_eq
  rw [if_neg (Nat.not_lt.mpr upper)] at read
  rw [getNatural, getInteger_of_fault held read]
  rfl

end Numeral

/-- A numeral of a word with any blanks around it reads as a natural number. The getter for natural
numbers gets it, with any default and without one, exactly if it is below `2 ^ 63`. From there on,
the getter refuses the text as no integer. -/
theorem getNatural_of_numeral_iff
    (held : Entries.find? properties.table key = some (.text content))
    (numeral : IsNumeral (trimChars content.toList) number) (word : number < 2 ^ 64) :
    Decimal.readNatural (trimChars content.toList) = .ok (.ofNat number) ∧
      (GetsUnder key properties getNatural (.ok (.ofNat number)) ↔ number < 2 ^ 63) ∧
      (2 ^ 63 ≤ number → GetsUnder key properties getNatural
        (.error (.refused (.invalidValue key content "an integer")))) := by
  have refused (upper : 2 ^ 63 ≤ number) := getNatural_of_upper held numeral upper
  refine ⟨numeral.readNatural_eq word, ?_, fun upper => ?_⟩
  · rw [getsUnder_iff_of_find? held]
    constructor
    · intro gets
      apply Nat.lt_of_not_le
      intro upper
      rw [refused upper] at gets
      cases gets
    · exact getNatural_of_lower held numeral
  · exact (getsUnder_iff_of_find? held).mpr (refused upper)

/-- The last numeral that is taken, with a sign, a zero and blanks before it, and the last one of a
word, with a line feed after it. -/
theorem getNatural_of_numeral_iff_lastOnes :
    GetsUnder "recordcount" (.set .empty "recordcount" (.text " +09223372036854775807")) getNatural
        (.ok 9223372036854775807) ∧
      Decimal.readNatural (trimChars "18446744073709551615\n".toList) =
        .ok 18446744073709551615 ∧
      GetsUnder "recordcount" (.set .empty "recordcount" (.text "18446744073709551615\n"))
        getNatural (.error (.refused
          (.invalidValue "recordcount" "18446744073709551615\n" "an integer"))) := by
  have lower : IsNumeral (trimChars " +09223372036854775807".toList) 9223372036854775807 :=
    ⟨"09223372036854775807".toList, .inr (by decide), by decide, List.all_eq_true.mp (by decide),
      by decide⟩
  have upper : IsNumeral (trimChars "18446744073709551615\n".toList) 18446744073709551615 :=
    ⟨"18446744073709551615".toList, .inl (by decide), by decide, List.all_eq_true.mp (by decide),
      by decide⟩
  have taken := getNatural_of_numeral_iff (Entries.find?_put_same "recordcount" _ []) lower
    (by decide)
  have refused := getNatural_of_numeral_iff (Entries.find?_put_same "recordcount" _ []) upper
    (by decide)
  exact ⟨taken.2.1.mpr (by decide), refused.1, refused.2.2 (by decide)⟩

/-- The first number of the upper half is a word, and its numeral is refused. -/
theorem not_every_numeral_taken :
    ¬∀ (properties : Properties) (key content : String) (number : Nat),
      Entries.find? properties.table key = some (.text content) →
      IsNumeral (trimChars content.toList) number → number < 2 ^ 64 →
      GetsUnder key properties getNatural (.ok (.ofNat number)) := by
  intro always
  have held : Entries.find? (Properties.set .empty "recordcount"
      (.text "9223372036854775808")).table "recordcount" = some (.text "9223372036854775808") :=
    Entries.find?_put_same ..
  have numeral : IsNumeral (trimChars "9223372036854775808".toList) 9223372036854775808 :=
    ⟨"9223372036854775808".toList, .inl (by decide), by decide, List.all_eq_true.mp (by decide),
      by decide⟩
  have taken := (always _ _ _ _ held numeral (by decide)).1
  rw [getNatural_of_upper held numeral (by decide)] at taken
  cases taken

end StoreBench.Properties
