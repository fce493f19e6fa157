import StoreBench.Properties

namespace StoreBench.Properties

/-! What getters get from a property that is present. They look at nothing but its value: values
that are read as the same, or refused and shown as the same, make no difference to them. -/

open Toml (Value)

variable {α : Type} {properties : Properties} {key : String} {value other : Value}

theorem require_eq_ok_iff :
    properties.require key = .ok value ↔ Entries.find? properties.table key = some value := by
  unfold require
  split <;> simp_all

theorem getText_of_find? (found : Entries.find? properties.table key = some value) :
    properties.getText key = readAs "a string" key textOf? value := by
  rw [getText, require_eq_ok_iff.mpr found]
  rfl

theorem getInteger_of_find? (found : Entries.find? properties.table key = some value) :
    properties.getInteger key = readAs "an integer" key integerOf? value := by
  rw [getInteger, require_eq_ok_iff.mpr found]
  rfl

theorem getBool_of_find? (found : Entries.find? properties.table key = some value) :
    properties.getBool key = readAs "a boolean" key boolOf? value := by
  rw [getBool, require_eq_ok_iff.mpr found]
  rfl

theorem readAs_congr {read? : Value → Option α} (expected key : String)
    (same : read? other = read? value) (shown : other.render = value.render) :
    readAs expected key read? other = readAs expected key read? value := by
  rw [readAs, readAs, same, shown]

theorem orDefault_of_find? {get : Properties → String → Except Failure α}
    (found : Entries.find? properties.table key = some value) (default : α) :
    orDefault get properties key default = get properties key := by
  rw [orDefault, contains, found, Option.isSome_some, if_pos rfl]

def SameUnder (key : String) (properties others : Properties)
    (get : Properties → String → Except Failure α) : Prop :=
  get others key = get properties key ∧
    ∀ default, orDefault get others key default = orDefault get properties key default

section Present

variable {others : Properties} {get : Properties → String → Except Failure α}
variable (found : Entries.find? properties.table key = some value)
variable (otherFound : Entries.find? others.table key = some other)

include found otherFound

theorem sameUnder_of_find? (same : get others key = get properties key) :
    SameUnder key properties others get :=
  ⟨same, fun default => by
    rw [orDefault_of_find? otherFound, orDefault_of_find? found, same]⟩

theorem sameUnder_of_readAs {expected : String} {read? : Value → Option α}
    (reads : ∀ {properties : Properties} {value : Value},
      Entries.find? properties.table key = some value →
        get properties key = readAs expected key read? value)
    (same : read? other = read? value) (shown : other.render = value.render) :
    SameUnder key properties others get := by
  apply sameUnder_of_find? found otherFound
  rw [reads otherFound, reads found, readAs_congr expected key same shown]

end Present

end StoreBench.Properties
