import Mathlib.Data.List.TakeWhile
import StoreBench.Text.Blank

namespace StoreBench

/-! What trimming does to a text with blank characters around it. -/

def BlankOnly (text : String) : Prop := ∀ character ∈ text.toList, isBlank character

instance (text : String) : Decidable (BlankOnly text) :=
  decidable_of_iff (text.toList.all isBlank) List.all_eq_true

variable {before after : List Char}

theorem trimChars_blank_append (blank : ∀ character ∈ before, isBlank character)
    (characters : List Char) : trimChars (before ++ characters) = trimChars characters := by
  rw [trimChars, trimChars, List.dropWhile_append_of_pos blank]

theorem trimChars_append_blank (blank : ∀ character ∈ after, isBlank character)
    (characters : List Char) : trimChars (characters ++ after) = trimChars characters := by
  rw [trimChars, trimChars, List.dropWhile_append]
  split
  next gone =>
    have nothing : after.dropWhile isBlank = [] := List.dropWhile_eq_nil_iff.mpr blank
    rw [nothing, List.isEmpty_iff.mp gone]
  next =>
    rw [List.reverse_append, List.dropWhile_append_of_pos]
    exact fun character member => blank character (List.mem_reverse.mp member)

theorem trimBlank_between {lead trail : String} (leadBlank : BlankOnly lead)
    (trailBlank : BlankOnly trail) (text : String) :
    trimBlank (lead ++ text ++ trail) = trimBlank text := by
  rw [trimBlank, trimBlank, String.toList_append, String.toList_append,
    trimChars_append_blank trailBlank, trimChars_blank_append leadBlank]

theorem BlankOnly.notMem {text : String} (blank : BlankOnly text) {character : Char}
    (shown : ¬isBlank character) : character ∉ text.toList :=
  fun member => shown (blank character member)

theorem trimChars_eq_self {characters : List Char}
    (shown : ∀ character ∈ characters, ¬isBlank character) : trimChars characters = characters := by
  have kept {list : List Char} (shown : ∀ character ∈ list, ¬isBlank character) :
      list.dropWhile isBlank = list := by
    cases list with
    | nil => rfl
    | cons first rest => exact List.dropWhile_cons_of_neg (shown first List.mem_cons_self)
  rw [trimChars, kept shown, kept fun character member =>
    shown character (List.mem_reverse.mp member), List.reverse_reverse]

theorem not_isBlank_of_isDigit {character : Char} (digit : character.isDigit) :
    ¬isBlank character := by
  have range : 48 ≤ character.toNat ∧ character.toNat ≤ 57 := by
    simpa [Char.isDigit, UInt32.le_iff_toNat_le] using digit
  simp only [isBlank, blankRanges, List.any_cons, List.any_nil, Bool.or_false, Bool.or_eq_true,
    Bool.and_eq_true, decide_eq_true_eq]
  omega

end StoreBench
