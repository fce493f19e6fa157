import StoreBench.CommandLine.Property
import StoreBench.Proofs.Getters
import StoreBench.Proofs.Numbers.Numerals

namespace StoreBench

/-! Properties on the command line. There a value is a text, while in a document it has a type. A
whole number or a truth value means the same in both places: its text is read as the value, and
refused as anything else, with the text that the value itself would be refused with. -/

/-! ## Values and their texts -/

namespace Toml.Value

open Properties (textOf? integerOf? boolOf?)

/-- A whole number or a truth value. -/
def Discrete : Value → Prop
  | .integer _ | .boolean _ => True
  | _ => False

theorem render_integer (number : Int64) :
    (integer number).render = .ok (toString number.toInt) := by
  simp [render, renderInner]

theorem render_boolean (flag : Bool) : (boolean flag).render = .ok (toString flag) := by
  simp [render, renderInner]

variable {value : Value} {printed : String}

/-- The text of a value has no blanks at its ends, and no getter tells it from the value. -/
theorem Discrete.read_text (discrete : value.Discrete) (shown : value.render = .ok printed) :
    trimChars printed.toList = printed.toList ∧
      textOf? (.text printed) = textOf? value ∧
      integerOf? (.text printed) = integerOf? value ∧
      boolOf? (.text printed) = boolOf? value := by
  cases value with
  | integer number =>
      rw [render_integer] at shown
      cases shown
      refine ⟨Decimal.trimChars_toString _, rfl, ?_, ?_⟩
      · show (Decimal.readInteger (trimChars _)).toOption = some number
        rw [Decimal.trimChars_toString, Decimal.readInteger_toString]
        rfl
      · show Decimal.readBool? (trimChars _) = none
        rw [Decimal.trimChars_toString, Decimal.readBool?_toString]
  | boolean flag =>
      rw [render_boolean] at shown
      cases shown
      cases flag <;> decide +kernel
  | text | float | dateTime | array | table => cases discrete

end Toml.Value

namespace CommandLine

open Properties
open Toml (Value)

/-- The key ends at the first equals sign, so there may be others in the value. -/
theorem readProperty?_eq_some {key : String} (value : String) (noEquals : '=' ∉ key.toList)
    (named : trimBlank key ≠ "") :
    readProperty? (key ++ "=" ++ value) = some (trimBlank key, trimBlank value) := by
  have before : ∀ character ∈ key.toList, decide (character ≠ '=') :=
    fun character member => decide_eq_true fun same => noEquals (same ▸ member)
  have text : (key ++ "=" ++ value).toList = key.toList ++ '=' :: value.toList := by simp
  have some : ¬(trimChars key.toList).isEmpty := by
    rw [List.isEmpty_iff]
    intro empty
    exact named (by rw [trimBlank, empty])
  rw [readProperty?, text, List.takeWhile_append_of_pos before, List.dropWhile_append_of_pos before]
  simp [some, trimBlank]

theorem readProperty?_between_blanks {lead key trail before value after : String}
    (noEquals : '=' ∉ key.toList) (named : trimBlank key ≠ "") (leadBlank : BlankOnly lead)
    (trailBlank : BlankOnly trail) (beforeBlank : BlankOnly before) (afterBlank : BlankOnly after) :
    readProperty? (lead ++ key ++ trail ++ "=" ++ before ++ value ++ after) =
      some (trimBlank key, trimBlank value) := by
  have name := trimBlank_between leadBlank trailBlank key
  have first : '=' ∉ (lead ++ key ++ trail).toList := by
    simp [noEquals, leadBlank.notMem (by decide : ¬isBlank '='),
      trailBlank.notMem (by decide : ¬isBlank '=')]
  have divided := readProperty?_eq_some (before ++ value ++ after) first (name ▸ named)
  rw [name, trimBlank_between beforeBlank afterBlank] at divided
  simpa only [String.append_assoc] using divided

/-- A whole number or a truth value on the command line, with any blanks around it and around its
key, is the property of that name, and each getter for texts, whole numbers and truth values gets
from it, with and without a default, what it gets from a document that holds the value itself: the
same result or the same refusal. -/
theorem override_as_typed {lead key trail before printed after : String} {value : Value}
    {typed : Properties} (noEquals : '=' ∉ key.toList) (named : trimBlank key ≠ "")
    (leadBlank : BlankOnly lead) (trailBlank : BlankOnly trail) (beforeBlank : BlankOnly before)
    (afterBlank : BlankOnly after) (discrete : value.Discrete) (shown : value.render = .ok printed)
    (held : Entries.find? typed.table (trimBlank key) = some value) (properties : Properties) :
    readProperty? (lead ++ key ++ trail ++ "=" ++ before ++ printed ++ after) =
        some (trimBlank key, printed) ∧
      SameUnder (trimBlank key) typed (properties.set (trimBlank key) (.text printed)) getText ∧
      SameUnder (trimBlank key) typed (properties.set (trimBlank key) (.text printed)) getInteger ∧
      SameUnder (trimBlank key) typed (properties.set (trimBlank key) (.text printed)) getNatural ∧
      SameUnder (trimBlank key) typed (properties.set (trimBlank key) (.text printed)) getBool := by
  rcases discrete.read_text shown with ⟨trimmed, asText, asInteger, asBool⟩
  have set : Entries.find? (properties.set (trimBlank key) (.text printed)).table (trimBlank key) =
      some (.text printed) := Entries.find?_put_same ..
  have display : (Value.text printed).render = value.render := shown.symm
  have integer := sameUnder_of_readAs held set getInteger_of_find? asInteger display
  have natural := sameUnder_of_find? held set
    (show getNatural _ _ = getNatural _ _ by rw [getNatural, getNatural, integer.1])
  refine ⟨?_, sameUnder_of_readAs held set getText_of_find? asText display, integer, natural,
    sameUnder_of_readAs held set getBool_of_find? asBool display⟩
  rw [readProperty?_between_blanks noEquals named leadBlank trailBlank beforeBlank afterBlank]
  rw [trimBlank, trimBlank, trimmed, String.ofList_toList]

/-- The least whole number under a key with a space in it, with other blanks around both. It is no
natural number, and refused as one by the same text. -/
theorem override_as_typed_least :
    readProperty? "\u3000record count\u00a0=\t-9223372036854775808 " =
        some ("record count", "-9223372036854775808") ∧
      getInteger (.set .empty "record count" (.text "-9223372036854775808")) "record count" =
        .ok (-9223372036854775808) ∧
      getNatural (.set .empty "record count" (.text "-9223372036854775808")) "record count" =
        .error (.refused (.invalidValue "record count" "-9223372036854775808"
          "a non-negative integer")) := by
  rcases @override_as_typed "\u3000" "record count" "\u00a0" "\t" "-9223372036854775808" " "
    (.integer (-9223372036854775808))
    (.set .empty "record count" (.integer (-9223372036854775808))) (by decide) (by decide)
    (by decide) (by decide) (by decide) (by decide) trivial (Value.render_integer _) rfl .empty with
    ⟨divided, _, integer, natural, _⟩
  exact ⟨divided, integer.1, natural.1⟩

end CommandLine
end StoreBench
