import StoreBench.Proofs.Drawing.Choices
import StoreBench.Toml.Printer

namespace StoreBench.Toml

/-! Values that cannot be shown. Where a text is written inside another value, its quotes in a
row are counted in a byte, so a value with too many of them in one of its texts is not written
at all. Every other value is. -/

mutual

def Value.innerTexts : Value → List String
  | .text content => [content]
  | .array items => itemTexts items
  | .table entries => entryTexts entries
  | _ => []

def itemTexts : List Value → List String
  | [] => []
  | item :: rest => item.innerTexts ++ itemTexts rest

def entryTexts : List (String × Value) → List String
  | [] => []
  | (_, value) :: rest => value.innerTexts ++ entryTexts rest

end

def Value.shownTexts : Value → List String
  | .text _ => []
  | .dateTime moment => [moment.text]
  | value => value.innerTexts

/-- A text with more equal quotes in a row than are counted. -/
def Crowded (content : String) : Prop :=
  256 ≤ (longestRun '"' content.toList).1 ∨ 256 ≤ (longestRun '\'' content.toList).1

theorem innerText_eq_error_iff {content : String} {crash : Crash} :
    innerText content = .error crash ↔ crash = .additionOverflow ∧ Crowded content := by
  by_cases crowded : Crowded content
  · have counted : innerText content = .error .additionOverflow := by
      refine if_neg ?_
      simp only [Bool.and_eq_true, decide_eq_true_eq]
      unfold Crowded at crowded
      omega
    simp [counted, crowded, eq_comm]
  · have counted : innerText content = .ok (quoted content) := by
      refine if_pos ?_
      simp only [Bool.and_eq_true, decide_eq_true_eq]
      unfold Crowded at crowded
      omega
    simp [counted, crowded]

theorem both_eq_error_iff {α β γ : Type} {first : Except Crash α} {second : Except Crash β}
    {join : α → β → γ} {here there : Prop}
    (head : ∀ crash, first = .error crash ↔ crash = .additionOverflow ∧ here)
    (tail : ∀ crash, second = .error crash ↔ crash = .additionOverflow ∧ there) (crash : Crash) :
    (do return join (← first) (← second)) = .error crash ↔
      crash = .additionOverflow ∧ (here ∨ there) := by
  simp only [bind_eq_error_iff, head, tail, reduceCtorEq, pure, Except.pure, and_false,
    exists_false, or_false]
  cases first with
  | error other =>
      have failed := (head other).mp rfl
      simp [failed.2]
  | ok value =>
      have passed : ¬here := fun crowded => nomatch (head _).mpr ⟨rfl, crowded⟩
      simp [passed]

mutual

theorem Value.renderInner_eq_error_iff : ∀ (value : Value) (crash : Crash),
    value.renderInner = .error crash ↔
      crash = .additionOverflow ∧ ∃ content ∈ value.innerTexts, Crowded content
  | .text content, crash => by
      simp [Value.renderInner, Value.innerTexts, innerText_eq_error_iff]
  | .integer _, _ | .float _, _ | .boolean _, _ | .dateTime _, _ | .table [], _ => by
      simp [Value.renderInner, Value.innerTexts, entryTexts]
  | .array items, crash => by
      simp [Value.renderInner, Value.innerTexts, bind_eq_error_iff, pure, Except.pure,
        renderItems_eq_error_iff items]
  | .table (entry :: rest), crash => by
      simp [Value.renderInner, Value.innerTexts, bind_eq_error_iff, pure, Except.pure,
        renderEntries_eq_error_iff (entry :: rest)]

theorem renderItems_eq_error_iff : ∀ (items : List Value) (crash : Crash),
    renderItems items = .error crash ↔
      crash = .additionOverflow ∧ ∃ content ∈ itemTexts items, Crowded content
  | [], crash => by simp [renderItems, itemTexts]
  | item :: rest, crash => by
      rw [renderItems, both_eq_error_iff item.renderInner_eq_error_iff
        (renderItems_eq_error_iff rest)]
      simp [itemTexts, or_and_right, exists_or]

theorem renderEntries_eq_error_iff : ∀ (entries : List (String × Value)) (crash : Crash),
    renderEntries entries = .error crash ↔
      crash = .additionOverflow ∧ ∃ content ∈ entryTexts entries, Crowded content
  | [], crash => by simp [renderEntries, entryTexts]
  | (key, value) :: rest, crash => by
      rw [renderEntries, both_eq_error_iff value.renderInner_eq_error_iff
        (renderEntries_eq_error_iff rest)]
      simp [entryTexts, or_and_right, exists_or]

end

/-- A value cannot be shown if one of its texts is crowded. -/
theorem Value.render_eq_error_iff {value : Value} {crash : Crash} :
    value.render = .error crash ↔
      crash = .additionOverflow ∧ ∃ content ∈ value.shownTexts, Crowded content := by
  cases value with
  | text content => simp [render, shownTexts]
  | dateTime moment =>
      simp [render, shownTexts, renderInner_eq_error_iff, innerTexts, entryTexts]
  | integer | float | boolean | array | table => exact renderInner_eq_error_iff _ _

end StoreBench.Toml
