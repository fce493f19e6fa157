import Mathlib.Algebra.Group.Nat.Defs
import StoreBench.Proofs.Configured
import StoreBench.Proofs.Getters
import StoreBench.Proofs.Toml.Shown

namespace StoreBench

/-! The first check that fails. Properties have to pass a fixed row of checks to describe a
workload, and the first one that fails decides what becomes of them. Nearly all checks refuse
properties with an error. The exceptions count or add up what the properties say before they
compare it with a bound: quotes in a value that has to be shown, the keys that transactions
may be aimed at, and the bytes that field names take. -/

/-! ## The row of checks -/

inductive Kind where
  | text
  | natural
  | float
  | boolean

inductive Check where
  | present (key : String)
  | readable (kind : Kind) (key : String)
  | positive (key : String) (default : UInt64)
  | valueLength
  | mix
  | keyOrder
  | requestDistribution
  | keys
  | scanLength
  /-- There is room for the names of all fields. -/
  | room

def outcomeOf {ε α : Type} (result : Except ε α) : Except ε Unit := result.map fun _ => ()

/-- A check of what was read. It does not fail if nothing can be read. -/
def whenRead {α : Type} (read : Except Failure α) (check : α → Except Failure Unit) :
    Except Failure Unit :=
  match read with
  | .ok value => check value
  | .error _ => .ok ()

namespace Check

open Properties (orDefault getText getNatural getFloat getBool)
open Workload (atLeastOne operationCountOf proportionsOf mixOf keyOrderOf)

def read (kind : Kind) (properties : Properties) (key : String) : Except Failure Unit :=
  match kind with
  | .text => outcomeOf (properties.getText key)
  | .natural => outcomeOf (properties.getNatural key)
  | .float => outcomeOf (properties.getFloat key)
  | .boolean => outcomeOf (properties.getBool key)

def requestsOf (properties : Properties) : Except Failure RequestDistribution := do
  RequestDistribution.ofName (← orDefault getText properties "requestdistribution" "uniform")

def run (properties : Properties) : Check → Except Failure Unit
  | present key => outcomeOf (properties.require key)
  | readable kind key => if properties.contains key then read kind properties key else .ok ()
  | positive key default =>
      whenRead (orDefault getNatural properties key default) fun number => atLeastOne key number
  | valueLength =>
      whenRead (orDefault getNatural properties "fieldlength" 100) fun greatest =>
      whenRead (orDefault getText properties "field_len_dist" "constant") fun name =>
        outcomeOf (LengthChoice.ofValues name greatest)
  | mix => whenRead (proportionsOf properties) fun proportions => outcomeOf (mixOf proportions)
  | keyOrder =>
      whenRead (orDefault getText properties "insertorder" "hashed") fun _ =>
        outcomeOf (keyOrderOf properties)
  | requestDistribution =>
      whenRead (orDefault getText properties "requestdistribution" "uniform") fun name =>
        outcomeOf (RequestDistribution.ofName name)
  | keys =>
      whenRead (getNatural properties "recordcount") fun records =>
      whenRead (operationCountOf properties) fun operations? =>
      whenRead (proportionsOf properties) fun proportions =>
      whenRead (requestsOf properties) fun distribution =>
        outcomeOf (KeyChoice.make distribution records operations? proportions.insert
          (Frontier.startingAt records).last)
  | scanLength =>
      whenRead (orDefault getNatural properties "maxscanlength" 1000) fun greatest =>
      whenRead (orDefault getText properties "scanlengthdistribution" "uniform") fun name =>
        outcomeOf (LengthChoice.ofScans name greatest)
  | room =>
      whenRead (orDefault getNatural properties "fieldcount" 10) fun fieldCount =>
        checkCapacity 24 fieldCount.toNat

end Check

def checks : List Check :=
  [.readable .text "table",
    .present "recordcount", .readable .natural "recordcount", .positive "recordcount" 0,
    .readable .natural "operationcount", .readable .natural "insertstart",
    .readable .natural "fieldcount", .positive "fieldcount" 10,
    .readable .natural "fieldlength", .readable .text "field_len_dist", .valueLength,
    .readable .boolean "readallfields", .readable .boolean "writeallfields",
    .readable .float "readproportion", .readable .float "updateproportion",
    .readable .float "insertproportion", .readable .float "scanproportion",
    .readable .float "readmodifywriteproportion", .mix,
    .readable .text "insertorder", .keyOrder,
    .readable .text "requestdistribution", .requestDistribution, .keys,
    .readable .natural "maxscanlength", .readable .text "scanlengthdistribution", .scanLength,
    .room]

/-! ## One check after the other -/

section

variable {ε α β : Type}

theorem outcomeOf_bind {first : Except ε α} {next : α → Except ε β} {check rest : Except ε Unit}
    (head : outcomeOf first = check)
    (tail : ∀ value, first = .ok value → outcomeOf (next value) = rest) :
    outcomeOf (first >>= next) = check >>= fun _ => rest := by
  subst head
  cases first with
  | error fault => rfl
  | ok value => exact tail value rfl

theorem outcomeOf_unit (result : Except ε Unit) : outcomeOf result = result := by
  cases result <;> rfl

theorem outcomeOf_eq_error_iff {result : Except ε α} {fault : ε} :
    outcomeOf result = .error fault ↔ result = .error fault := by
  cases result <;> simp [outcomeOf, Except.map]

theorem whenRead_ok {read : Except Failure α} {value : α} (read_eq : read = .ok value)
    (check : α → Except Failure Unit) : whenRead read check = check value := by
  rw [read_eq]
  rfl

theorem whenRead_eq_error_iff {read : Except Failure α} {check : α → Except Failure Unit}
    {failure : Failure} :
    whenRead read check = .error failure ↔
      ∃ value, read = .ok value ∧ check value = .error failure := by
  cases read <;> simp [whenRead]

theorem forM_eq_error_iff {items : List α} {check : α → Except ε Unit} {fault : ε} :
    forM items check = .error fault ↔ ∃ earlier item later, items = earlier ++ item :: later ∧
      (∀ other ∈ earlier, check other = .ok ()) ∧ check item = .error fault := by
  induction items with
  | nil => simp [pure, Except.pure]
  | cons first rest induction =>
      rw [List.forM_cons, bind_eq_error_iff, induction]
      constructor
      · rintro (failed | ⟨_, passed, earlier, item, later, rfl, others, failed⟩)
        · exact ⟨[], first, rest, rfl, by simp, failed⟩
        · exact ⟨first :: earlier, item, later, rfl, by simpa [passed] using others, failed⟩
      · rintro ⟨earlier, item, later, split, others, failed⟩
        cases earlier with
        | nil =>
            cases split
            exact .inl failed
        | cons _ earlier =>
            cases split
            rw [List.forall_mem_cons] at others
            exact .inr ⟨(), others.1, earlier, item, later, rfl, others.2, failed⟩

end

/-! ## Properties -/

section Failures

open Properties (orDefault getText getNatural getFloat getBool)
open Workload (atLeastOne operationCountOf proportionsOf mixOf keyOrderOf ofProperties)

variable {properties : Properties}

theorem outcomeOf_orDefault {α : Type} (get : Properties → String → Except Failure α)
    (key : String) (default : α) :
    outcomeOf (orDefault get properties key default) =
      if properties.contains key then outcomeOf (get properties key) else .ok () := by
  unfold orDefault
  split <;> rfl

/-- A result that succeeds or fails as checks do. -/
def FailsAs {α : Type} (properties : Properties) (result : Except Failure α)
    (checks : List Check) : Prop :=
  outcomeOf result = forM checks (Check.run properties)

theorem FailsAs.of_run {α : Type} {result : Except Failure α} (check : Check)
    (same : outcomeOf result = check.run properties) : FailsAs properties result [check] := by
  rw [FailsAs, same, List.forM_cons, List.forM_nil]
  cases check.run properties <;> rfl

theorem FailsAs.bind {α β : Type} {first : Except Failure α} {next : α → Except Failure β}
    {earlier later : List Check} (head : FailsAs properties first earlier)
    (tail : ∀ value, first = .ok value → FailsAs properties (next value) later) :
    FailsAs properties (first >>= next) (earlier ++ later) := by
  rw [FailsAs, List.forM_append]
  exact outcomeOf_bind head tail

theorem FailsAs.orDefault {α : Type} {get : Properties → String → Except Failure α} {key : String}
    {default : α} {kind : Kind}
    (same : outcomeOf (get properties key) = Check.read kind properties key) :
    FailsAs properties (orDefault get properties key default) [.readable kind key] := by
  apply of_run
  rw [outcomeOf_orDefault, same]
  rfl

theorem FailsAs.proportionsOf : FailsAs properties (proportionsOf properties)
    [.readable .float "readproportion", .readable .float "updateproportion",
      .readable .float "insertproportion", .readable .float "scanproportion",
      .readable .float "readmodifywriteproportion"] := by
  refine .bind (.orDefault rfl) fun read _ => ?_
  refine .bind (.orDefault rfl) fun update _ => ?_
  refine .bind (.orDefault rfl) fun insert _ => ?_
  refine .bind (.orDefault rfl) fun scan _ => ?_
  refine .bind (.orDefault rfl) fun readModifyWrite _ => rfl

theorem FailsAs.getNatural (key : String) : FailsAs properties (getNatural properties key)
    [.present key, .readable .natural key] := by
  rw [FailsAs, List.forM_cons, List.forM_cons, List.forM_nil]
  cases here : Entries.find? properties.table key with
  | none =>
      have required : properties.require key = .error (.missingKey key) := by
        simp [Properties.require, here]
      rw [Check.run, Properties.getNatural, Properties.getInteger, required]
      rfl
  | some value =>
      have contained : properties.contains key := Option.isSome_iff_exists.mpr ⟨value, here⟩
      rw [Check.run, Check.run, if_pos contained, Properties.require_eq_ok_iff.mpr here]
      change _ = Check.read .natural properties key >>= pure
      rw [bind_pure]
      rfl

theorem orDefault_of_getNatural {key : String} {number default : UInt64}
    (read : getNatural properties key = .ok number) :
    orDefault getNatural properties key default = .ok number := by
  have required := read
  simp only [Properties.getNatural, Properties.getInteger, bind_eq_ok_iff, liftConfig_eq_ok_iff,
    Properties.require_eq_ok_iff] at required
  rcases required with ⟨_, ⟨value, here, _⟩, _⟩
  rw [Properties.orDefault_of_find? here, read]

theorem FailsAs.keyOrderOf : FailsAs properties (keyOrderOf properties)
    [.readable .text "insertorder", .keyOrder] := by
  refine .bind (.orDefault rfl) fun name named => .of_run .keyOrder ?_
  rw [Check.run, whenRead_ok named, Workload.keyOrderOf, named]
  rfl

theorem FailsAs.operationCountOf : FailsAs properties (operationCountOf properties)
    [.readable .natural "operationcount"] := by
  apply of_run
  rw [Workload.operationCountOf, Check.run, Check.read]
  split
  · cases Properties.getNatural properties "operationcount" <;> rfl
  · rfl

theorem FailsAs.between_zero (upper : UInt64) :
    FailsAs properties (liftM (Uniform.between 0 upper)) [] := by
  rw [Uniform.between, dif_pos UInt64.zero_le]
  rfl

/-- Properties describe a workload if they pass all checks, and else they fail as the first
check that they do not pass. -/
theorem failsAs_ofProperties : FailsAs properties (ofProperties properties) checks := by
  refine .bind (.orDefault rfl) fun table _ => ?_
  refine .bind (.getNatural "recordcount") fun recordCount recordCountRead => ?_
  refine .bind (.of_run (.positive "recordcount" 0) ?_) fun _ _ => ?_
  · rw [Check.run, whenRead_ok (orDefault_of_getNatural recordCountRead)]
    exact outcomeOf_unit _
  refine .bind .operationCountOf fun operations? operationsRead => ?_
  refine .bind (.orDefault rfl) fun firstNumber _ => ?_
  refine .bind (.orDefault rfl) fun fieldCount fieldCountRead => ?_
  refine .bind (.of_run (.positive "fieldcount" 10) ?_) fun _ _ => ?_
  · rw [Check.run, whenRead_ok fieldCountRead]
    exact outcomeOf_unit _
  refine .bind (.orDefault rfl) fun greatestLength lengthRead => ?_
  refine .bind (.orDefault rfl) fun lengths lengthsRead => ?_
  refine .bind (.of_run .valueLength ?_) fun valueLength _ => ?_
  · rw [Check.run, whenRead_ok lengthRead, whenRead_ok lengthsRead]
  refine .bind (.orDefault rfl) fun readAllFields _ => ?_
  refine .bind (.orDefault rfl) fun writeAllFields _ => ?_
  refine .bind .proportionsOf fun proportions proportionsRead => ?_
  refine .bind (.of_run .mix ?_) fun operations _ => ?_
  · rw [Check.run, whenRead_ok proportionsRead]
  refine .bind .keyOrderOf fun keyOrder _ => ?_
  refine .bind (.orDefault rfl) fun requests requestsRead => ?_
  refine .bind (.of_run .requestDistribution ?_) fun distribution named => ?_
  · rw [Check.run, whenRead_ok requestsRead]
  refine .bind (.of_run .keys ?_) fun keys _ => ?_
  · have distributionRead : Check.requestsOf properties = .ok distribution := by
      rw [Check.requestsOf, requestsRead]
      exact named
    rw [Check.run, whenRead_ok recordCountRead, whenRead_ok operationsRead,
      whenRead_ok proportionsRead, whenRead_ok distributionRead]
  refine .bind (.between_zero _) fun fields _ => ?_
  refine .bind (.orDefault rfl) fun greatestScan scanRead => ?_
  refine .bind (.orDefault rfl) fun scans scansRead => ?_
  refine .bind (.of_run .scanLength ?_) fun scanLength _ => ?_
  · rw [Check.run, whenRead_ok scanRead, whenRead_ok scansRead]
  refine .bind (.of_run .room ?_) fun _ _ => rfl
  rw [Check.run, whenRead_ok fieldCountRead]
  exact outcomeOf_unit _

/-! ## Crashes -/

/-- What makes a check crash where it should refuse. -/
def Check.Crashes (properties : Properties) (crash : Crash) : Check → Prop
  | readable _ key => crash = .additionOverflow ∧ ∃ value,
      Entries.find? properties.table key = some value ∧
        ∃ content ∈ value.shownTexts, Toml.Crowded content
  | keys => crash = .additionOverflow ∧ ∃ records operations proportions,
      properties.getNatural "recordcount" = .ok records ∧
        operationCountOf properties = .ok (some operations) ∧
        proportionsOf properties = .ok proportions ∧ requestsOf properties = .ok .zipfian ∧
        2 ^ 64 ≤ records.toNat + (KeyChoice.reserve operations proportions.insert).toNat
  | room => crash = .capacityOverflow ∧ ∃ fieldCount,
      orDefault Properties.getNatural properties "fieldcount" 10 = .ok fieldCount ∧
        2 ^ 63 ≤ 24 * fieldCount.toNat
  | _ => False

variable {crash : Crash}

theorem liftConfig_ne_crashed {α : Type} (result : Except ConfigError α) :
    (liftM result : Except Failure α) ≠ .error (.crashed crash) := by
  cases result with
  | error fault => exact nofun
  | ok value => exact nofun

theorem liftCrash_eq_crashed_iff {α : Type} {result : Except Crash α} :
    (liftM result : Except Failure α) = .error (.crashed crash) ↔ result = .error crash := by
  cases result with
  | error other => exact ⟨fun same => by cases same; rfl, fun same => by cases same; rfl⟩
  | ok value => exact ⟨nofun, nofun⟩

theorem checkedAdd_eq_error_iff {left right : UInt64} :
    checkedAdd left right = .error crash ↔
      crash = .additionOverflow ∧ 2 ^ 64 ≤ left.toNat + right.toNat := by
  have leftBound := left.toNat_lt
  have rightBound := right.toNat_lt
  have wraps : left + right < left ↔ 2 ^ 64 ≤ left.toNat + right.toNat := by
    rw [UInt64.lt_iff_toNat_lt, UInt64.toNat_add]
    omega
  rw [← wraps, checkedAdd]
  split
  next wrapped => simp [wrapped, eq_comm]
  next room => simp [room]

theorem checkCapacity_eq_error_iff {size count : Nat} :
    checkCapacity size count = .error crash ↔
      crash = .capacityOverflow ∧ 2 ^ 63 ≤ size * count := by
  have half : UInt64.size / 2 = 2 ^ 63 := rfl
  rw [checkCapacity, half]
  split
  next room =>
    refine iff_of_false nofun ?_
    rintro ⟨_, full⟩
    exact Nat.not_le.mpr room full
  next full =>
    have full := Nat.not_lt.mp full
    exact ⟨fun same => ⟨(Except.error.inj same).symm, full⟩, fun same => same.1 ▸ rfl⟩

/-- A value that cannot be shown is none of those that can be read. -/
theorem readAs_crashed_iff {α : Type} {expected key : String} {read? : Toml.Value → Option α}
    {value : Toml.Value} (unread : value.shownTexts ≠ [] → read? value = none) :
    Properties.readAs expected key read? value = .error (.crashed crash) ↔
      crash = .additionOverflow ∧ ∃ content ∈ value.shownTexts, Toml.Crowded content := by
  unfold Properties.readAs
  cases here : read? value with
  | some result =>
      cases listed : value.shownTexts with
      | nil => simp
      | cons => simp [unread (listed ▸ List.cons_ne_nil _ _)] at here
  | none =>
      simp only [bind_eq_error_iff, liftCrash_eq_crashed_iff, Toml.Value.render_eq_error_iff]
      simp [throw, throwThe, MonadExceptOf.throw]

theorem Check.read_crashed_iff {kind : Kind} {key : String} :
    Check.read kind properties key = .error (.crashed crash) ↔
      (Check.readable kind key).Crashes properties crash := by
  have crashes {α : Type} (expected : String) (read? : Toml.Value → Option α)
      (unread : ∀ value : Toml.Value, value.shownTexts ≠ [] → read? value = none) :
      (do Properties.readAs expected key read? (← properties.require key) : Except Failure α) =
          .error (.crashed crash) ↔ (Check.readable kind key).Crashes properties crash := by
    simp only [bind_eq_error_iff, liftConfig_ne_crashed, liftConfig_eq_ok_iff,
      Properties.require_eq_ok_iff, readAs_crashed_iff (unread _), Crashes, false_or]
    constructor
    · rintro ⟨value, here, same, shown⟩
      exact ⟨same, value, here, shown⟩
    · rintro ⟨same, value, here, shown⟩
      exact ⟨value, here, same, shown⟩
  have shown {value : Toml.Value} (some : value.shownTexts ≠ []) :
      (∃ moment, value = .dateTime moment) ∨ (∃ items, value = .array items) ∨
        ∃ entries, value = .table entries := by
    cases value <;> simp_all [Toml.Value.shownTexts, Toml.Value.innerTexts]
  cases kind with
  | natural =>
      -- An integer that was read is compared with zero, which refuses it at most.
      have refused (number : Int64) : (if 0 ≤ number then return number.toUInt64 else
          throw (.refused (.invalidValue key (toString number.toInt) "a non-negative integer")) :
          Except Failure UInt64) ≠ .error (.crashed crash) := by
        intro same
        split at same <;> cases same
      rw [read, outcomeOf_eq_error_iff, Properties.getNatural, bind_eq_error_iff]
      simp only [refused, and_false, exists_false, or_false]
      exact crashes _ _ fun value some => by
        rcases shown some with ⟨_, rfl⟩ | ⟨_, rfl⟩ | ⟨_, rfl⟩ <;> rfl
  | text | float | boolean =>
      rw [read, outcomeOf_eq_error_iff]
      exact crashes _ _ fun value some => by
        rcases shown some with ⟨_, rfl⟩ | ⟨_, rfl⟩ | ⟨_, rfl⟩ <;> rfl

theorem KeyChoice.make_crashed_iff {distribution : RequestDistribution} {records newest : UInt64}
    {operations? : Option UInt64} {weight : Float} :
    KeyChoice.make distribution records operations? weight newest = .error (.crashed crash) ↔
      distribution = .zipfian ∧ crash = .additionOverflow ∧ ∃ operations,
        operations? = some operations ∧
          2 ^ 64 ≤ records.toNat + (KeyChoice.reserve operations weight).toNat := by
  cases distribution with
  | uniform | latest =>
      simp [make, bind_eq_error_iff, liftConfig_ne_crashed, pure, Except.pure]
  | zipfian =>
      cases operations? with
      | none => simp [make, throw, throwThe, MonadExceptOf.throw]
      | some operations =>
          simp [make, bind_eq_error_iff, liftConfig_ne_crashed, liftCrash_eq_crashed_iff,
            checkedAdd_eq_error_iff, pure, Except.pure]

theorem keyOrderOf_of_named {name : String}
    (named : orDefault getText properties "insertorder" "hashed" = .ok name) :
    keyOrderOf properties ≠ .error (.crashed crash) := by
  rw [Workload.keyOrderOf, named]
  simp only [bind, Except.bind]
  split <;> exact nofun

theorem Check.run_crashed_iff {check : Check} :
    check.run properties = .error (.crashed crash) ↔ check.Crashes properties crash := by
  cases check with
  | present | positive | valueLength | mix | requestDistribution | scanLength =>
      simp [run, Crashes, whenRead_eq_error_iff, outcomeOf_eq_error_iff, liftConfig_ne_crashed]
  | readable kind key =>
      rw [run]
      split
      next => exact read_crashed_iff
      next absent =>
        refine iff_of_false nofun ?_
        rintro ⟨_, value, here, _⟩
        exact absent (Option.isSome_iff_exists.mpr ⟨value, here⟩)
  | keyOrder =>
      simp only [run, Crashes, whenRead_eq_error_iff, outcomeOf_eq_error_iff, iff_false]
      rintro ⟨name, named, crashed⟩
      exact keyOrderOf_of_named named crashed
  | keys =>
      simp only [run, Crashes, whenRead_eq_error_iff, outcomeOf_eq_error_iff,
        KeyChoice.make_crashed_iff]
      constructor
      · rintro ⟨records, counted, _, transactions, proportions, weighed, _, named, rfl, same,
          operations, rfl, many⟩
        exact ⟨same, records, operations, proportions, counted, transactions, weighed, named, many⟩
      · rintro ⟨same, records, operations, proportions, counted, transactions, weighed, named,
          many⟩
        exact ⟨records, counted, _, transactions, proportions, weighed, _, named, rfl, same,
          operations, rfl, many⟩
  | room =>
      simp only [run, Crashes, whenRead_eq_error_iff, liftCrash_eq_crashed_iff,
        checkCapacity_eq_error_iff]
      constructor
      · rintro ⟨fieldCount, here, same, many⟩
        exact ⟨same, fieldCount, here, many⟩
      · rintro ⟨same, fieldCount, here, many⟩
        exact ⟨fieldCount, here, same, many⟩

/-- The description of a workload crashes exactly if some check does and all those before it
are passed. -/
theorem Workload.ofProperties_crashed_iff :
    ofProperties properties = .error (.crashed crash) ↔
      ∃ earlier check later, checks = earlier ++ check :: later ∧
        (∀ other ∈ earlier, other.run properties = .ok ()) ∧ check.Crashes properties crash := by
  rw [← outcomeOf_eq_error_iff, failsAs_ofProperties, forM_eq_error_iff]
  simp only [Check.run_crashed_iff]

end Failures

/-- As many transactions that insert as there are words: the keys they are aimed at cannot be
counted. -/
def Workload.crowdedKeys : Properties where
  table := [("recordcount", .integer 2), ("operationcount", .integer 10),
    ("requestdistribution", .text "zipfian"), ("insertproportion", .float 1e300)]

def crashOf? {α : Type} : Except Failure α → Option Crash
  | .error (.crashed crash) => some crash
  | _ => none

theorem crashOf?_eq_some_iff {α : Type} {result : Except Failure α} {crash : Crash} :
    crashOf? result = some crash ↔ result = .error (.crashed crash) := by
  rcases result with (_ | _) | _ <;> simp [crashOf?]

theorem Workload.not_every_description_answered :
    ofProperties crowdedKeys = .error (.crashed .additionOverflow) := by
  apply crashOf?_eq_some_iff.mp
  decide +kernel

end StoreBench
