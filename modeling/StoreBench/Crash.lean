import StoreBench.Text.Escaped

namespace StoreBench

/-! Faults that stop a run. A draw or an acknowledgement normally succeeds; it
stops with a `Crash` when word arithmetic leaves its range or when a rule that
the configuration should have ensured is broken. -/

inductive Crash where
  | additionOverflow
  | subtractionOverflow
  /-- A list would take up more than half of all addresses. -/
  | capacityOverflow
  | unsupportedItemCount
  | nothingToChoose
  | nothingChosen
  /-- Every draw of a target key lay beyond the frontier, up to the limit set on
  the number of redraws. -/
  | redrawLimit
  /-- A text was cut inside one of its characters, which starts at a byte offset. -/
  | insideCharacter (cut : Nat) (character : Char) (start : Nat)
  | task (text : String)
  deriving DecidableEq, Repr

def Crash.message : Crash → String
  | .additionOverflow => "attempt to add with overflow"
  | .subtractionOverflow => "attempt to subtract with overflow"
  | .capacityOverflow => "capacity overflow"
  | .unsupportedItemCount => "assertion failed: num >= 2 && num < MAX_NUM_ITEMS"
  | .nothingToChoose => "discrete generator needs at least one value"
  | .nothingChosen => "last() called on a discrete generator before next()"
  | .redrawLimit => "no key at or below the frontier was drawn"
  | .insideCharacter cut character start =>
      "end byte index " ++ toString cut ++ " is not a char boundary; it is inside '" ++
        String.ofList (escapedChar character) ++ "' (bytes " ++ toString start ++ ".." ++
        toString (start + character.utf8Size) ++ " of string)"
  | .task text => text

/-! ## Checked word arithmetic -/

def checkedAdd (left right : UInt64) : Except Crash UInt64 :=
  if left + right < left then .error .additionOverflow else .ok (left + right)

example : checkedAdd 40 2 = .ok 42 := rfl

example : checkedAdd 18446744073709551615 1 = .error .additionOverflow := rfl

def checkedSub (left right : UInt64) : Except Crash UInt64 :=
  if right ≤ left then .ok (left - right) else .error .subtractionOverflow

example : checkedSub 42 2 = .ok 40 := rfl

example : checkedSub 2 42 = .error .subtractionOverflow := rfl

theorem checkedAdd_eq_ok_iff {left right sum : UInt64} :
    checkedAdd left right = .ok sum ↔ sum.toNat = left.toNat + right.toNat := by
  have leftBound := left.toNat_lt
  have rightBound := right.toNat_lt
  have sumBound := sum.toNat_lt
  unfold checkedAdd
  split <;> rename_i wraps <;>
    simp only [UInt64.lt_iff_toNat_lt, UInt64.toNat_add] at wraps
  · simp only [reduceCtorEq, false_iff]
    omega
  · simp only [Except.ok.injEq, ← UInt64.toNat_inj, UInt64.toNat_add]
    omega

theorem checkedSub_eq_ok_iff {left right difference : UInt64} :
    checkedSub left right = .ok difference ↔
      difference.toNat + right.toNat = left.toNat := by
  have leftBound := left.toNat_lt
  have differenceBound := difference.toNat_lt
  unfold checkedSub
  split <;> rename_i ordered <;> simp only [UInt64.le_iff_toNat_le] at ordered
  · simp only [Except.ok.injEq, ← UInt64.toNat_inj,
      UInt64.toNat_sub_of_le _ _ (UInt64.le_iff_toNat_le.mpr ordered)]
    omega
  · simp only [reduceCtorEq, false_iff]
    omega

/-! ## Room for lists -/

def checkCapacity (size count : Nat) : Except Crash Unit :=
  if size * count < UInt64.size / 2 then .ok () else .error .capacityOverflow

end StoreBench
