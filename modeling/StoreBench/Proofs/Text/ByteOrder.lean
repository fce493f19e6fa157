import Mathlib.Data.String.Basic

namespace StoreBench

/-! The order of texts. Texts are ordered by the code points of their characters. This is the
order of their bytes, since the encoding of a greater character is greater already where it
first differs, whatever follows. -/

def bytesOf (text : String) : List UInt8 := text.toUTF8.data.toList

/-- The bytes of a code point as numbers: a first byte that says how many there are, and six bits
in each of the others. -/
def octets (code : Nat) : List Nat :=
  if code ≤ 0x7f then [code]
  else if code ≤ 0x7ff then [code / 64 + 0xc0, code % 64 + 0x80]
  else if code ≤ 0xffff then [code / 4096 + 0xe0, code / 64 % 64 + 0x80, code % 64 + 0x80]
  else [code / 262144 + 0xf0, code / 4096 % 64 + 0x80, code / 64 % 64 + 0x80, code % 64 + 0x80]

theorem octets_append_lt {code other : Nat} (less : code < other) (valid : other < 0x110000)
    (rest others : List Nat) : octets code ++ rest < octets other ++ others := by
  unfold octets
  -- Of two encodings of one length, the first bytes that differ are compared.
  split_ifs <;> simp only [List.cons_append, List.nil_append, List.cons_lt_cons_iff] <;> omega

theorem toNat_lt_of_char (character : Char) : character.toNat < 0x110000 := by
  have valid : character.toNat.isValidChar := character.valid
  unfold Nat.isValidChar at valid
  omega

theorem toNat_utf8EncodeChar (character : Char) :
    (String.utf8EncodeChar character).map UInt8.toNat = octets character.toNat := by
  have valid := toNat_lt_of_char character
  have code : character.val.toNat = character.toNat := rfl
  simp only [String.utf8EncodeChar, code, octets]
  split_ifs <;>
    simp only [List.map_cons, List.map_nil, UInt8.toNat_ofNat', List.cons.injEq, and_true] <;>
    omega

theorem lt_of_map_toNat_lt {bytes others : List UInt8}
    (less : bytes.map UInt8.toNat < others.map UInt8.toNat) : bytes < others := by
  induction bytes generalizing others with
  | nil =>
      cases others with
      | nil => cases less
      | cons => exact .nil
  | cons byte bytes induction =>
      cases others with
      | nil => cases less
      | cons other others =>
          simp only [List.map_cons, List.cons_lt_cons_iff, UInt8.toNat_inj] at less ⊢
          exact less.imp UInt8.lt_iff_toNat_lt.mpr fun ⟨same, later⟩ => ⟨same, induction later⟩

theorem utf8EncodeChar_append_lt {character other : Char} (less : character < other)
    (rest others : List UInt8) :
    String.utf8EncodeChar character ++ rest < String.utf8EncodeChar other ++ others := by
  apply lt_of_map_toNat_lt
  rw [List.map_append, List.map_append, toNat_utf8EncodeChar, toNat_utf8EncodeChar]
  exact octets_append_lt less (toNat_lt_of_char other) _ _

theorem flatMap_utf8EncodeChar_lt {characters others : List Char} (less : characters < others) :
    characters.flatMap String.utf8EncodeChar < others.flatMap String.utf8EncodeChar := by
  induction less with
  | @nil other others =>
      rw [List.flatMap_nil, List.flatMap_cons]
      cases encoded : String.utf8EncodeChar other with
      | nil => exact absurd encoded String.utf8EncodeChar_ne_nil
      | cons => exact .nil
  | rel less => exact utf8EncodeChar_append_lt less _ _
  | cons less induction => exact List.append_left_lt induction

theorem bytesOf_eq_flatMap (text : String) :
    bytesOf text = text.toList.flatMap String.utf8EncodeChar := by
  conv_lhs => rw [← String.ofList_toList (s := text)]
  rw [bytesOf, String.toUTF8_eq_toByteArray, String.toByteArray_ofList, List.utf8Encode]
  exact List.data_toByteArray ▸ rfl

theorem bytesOf_lt_of_lt {text other : String} (less : text < other) :
    bytesOf text < bytesOf other := by
  rw [bytesOf_eq_flatMap, bytesOf_eq_flatMap]
  exact flatMap_utf8EncodeChar_lt (String.lt_iff_toList_lt.mp less)

theorem bytesOf_lt_iff {text other : String} : bytesOf text < bytesOf other ↔ text < other := by
  constructor
  · intro less
    rcases lt_trichotomy text other with before | same | after
    · exact before
    · exact absurd less (same ▸ List.lt_irrefl _)
    · exact absurd less (List.lt_asymm (bytesOf_lt_of_lt after))
  · exact bytesOf_lt_of_lt

theorem bytesOf_le_iff {text other : String} : bytesOf text ≤ bytesOf other ↔ text ≤ other := by
  rw [← List.not_lt, bytesOf_lt_iff, not_lt]

/-- A character of two bytes comes after all those of one. -/
example : bytesOf "zz" < bytesOf "é" := by decide +kernel

end StoreBench
