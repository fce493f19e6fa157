import StoreBench.Proofs.Checks
import StoreBench.Proofs.Drawing.Ready

namespace StoreBench

/-! Sound properties. Which properties describe a workload can be said without the checks that
they go through: everything in them that is recognised can be read, and what is read lies within
its bounds. Sound properties are accepted if there is room for the names of all fields, and no
others are. -/

open Properties (orDefault getText getNatural getFloat getBool)

def LengthChoice.Drawable (distribution : String) (greatest : UInt64) : Prop :=
  distribution = "uniform" ∧ 1 ≤ greatest.toNat ∨
    distribution = "zipfian" ∧ 2 ≤ greatest.toNat ∧ greatest.toNat < 2 ^ 40

deriving instance DecidableEq for Kind

namespace Properties

def recognised : List (String × Kind) :=
  [("table", .text), ("recordcount", .natural), ("operationcount", .natural),
    ("insertstart", .natural), ("fieldcount", .natural), ("fieldlength", .natural),
    ("field_len_dist", .text), ("readallfields", .boolean), ("writeallfields", .boolean),
    ("readproportion", .float), ("updateproportion", .float), ("insertproportion", .float),
    ("scanproportion", .float), ("readmodifywriteproportion", .float), ("insertorder", .text),
    ("requestdistribution", .text), ("maxscanlength", .natural),
    ("scanlengthdistribution", .text)]

def proportionDefaults : List (String × Float) :=
  [("readproportion", 0.95), ("updateproportion", 0.05), ("insertproportion", 0),
    ("scanproportion", 0), ("readmodifywriteproportion", 0)]

def Aimable (properties : Properties) (records : UInt64) (distribution : String) : Prop :=
  distribution = "uniform" ∨
    (distribution = "zipfian" ∧ ∃ operations weight,
      properties.getNatural "operationcount" = .ok operations ∧
      orDefault getFloat properties "insertproportion" 0 = .ok weight ∧
      2 ≤ records.toNat + (KeyChoice.reserve operations weight).toNat ∧
      records.toNat + (KeyChoice.reserve operations weight).toNat < 2 ^ 40) ∨
    (distribution = "latest" ∧ 3 ≤ records.toNat ∧ records.toNat ≤ 2 ^ 40)

structure Sound (properties : Properties) : Prop where
  /-- A value that cannot be read is never replaced by a default. -/
  readable : ∀ entry ∈ recognised, properties.contains entry.1 →
    Check.read entry.2 properties entry.1 = .ok ()
  records : ∃ records, properties.getNatural "recordcount" = .ok records ∧ 1 ≤ records.toNat
  fields : ∃ fields, orDefault getNatural properties "fieldcount" 10 = .ok fields ∧
    1 ≤ fields.toNat
  valueLength : ∃ greatest, orDefault getNatural properties "fieldlength" 100 = .ok greatest ∧
    ∃ name, orDefault getText properties "field_len_dist" "constant" = .ok name ∧
      (name = "constant" ∨ LengthChoice.Drawable name greatest)
  mix : ∃ entry ∈ proportionDefaults, ∃ weight,
    orDefault getFloat properties entry.1 entry.2 = .ok weight ∧ 0 < weight
  keyOrder : ∃ name, orDefault getText properties "insertorder" "hashed" = .ok name ∧
    (name = "hashed" ∨ name = "ordered")
  requests : ∃ records, properties.getNatural "recordcount" = .ok records ∧
    ∃ name, orDefault getText properties "requestdistribution" "uniform" = .ok name ∧
      properties.Aimable records name
  scanLength : ∃ greatest, orDefault getNatural properties "maxscanlength" 1000 = .ok greatest ∧
    ∃ name, orDefault getText properties "scanlengthdistribution" "uniform" = .ok name ∧
      LengthChoice.Drawable name greatest

end Properties

/-! ## Choices that can be made -/

section Results

variable {ε α β : Type}

theorem outcomeOf_eq_ok_iff {result : Except ε α} :
    outcomeOf result = .ok () ↔ ∃ value, result = .ok value := by
  cases result <;> simp [outcomeOf, Except.map]

theorem exists_map_eq_ok_iff {result : Except ε α} {make : α → β} :
    (∃ value, result.map make = .ok value) ↔ ∃ value, result = .ok value := by
  cases result <;> simp [Except.map]

theorem forM_eq_ok_iff {items : List α} {check : α → Except ε Unit} :
    forM items check = .ok () ↔ ∀ item ∈ items, check item = .ok () := by
  induction items with
  | nil => simp [pure, Except.pure]
  | cons first rest induction =>
      rw [List.forM_cons, bind_eq_ok_iff, List.forall_mem_cons, ← induction]
      exact ⟨fun ⟨_, passed, others⟩ => ⟨passed, others⟩, fun both => ⟨(), both⟩⟩

theorem whenRead_eq_ok_iff {read : Except Failure α} {check : α → Except Failure Unit}
    (readable : ∃ value, read = .ok value) :
    whenRead read check = .ok () ↔ ∃ value, read = .ok value ∧ check value = .ok () := by
  rcases readable with ⟨value, rfl⟩
  simp [whenRead]

end Results

namespace Zipfian

variable {items : UInt64}

theorem itemsBetween_one (greatest : UInt64) : itemsBetween 1 greatest = greatest := by
  unfold itemsBetween
  split
  next ordered =>
    have difference := UInt64.toNat_sub_of_le greatest 1 ordered
    have bound := greatest.toNat_lt
    rw [UInt64.toNat_one] at difference
    rw [if_neg, UInt64.sub_add_cancel]
    intro full
    have all : (18446744073709551615 : UInt64).toNat = 2 ^ 64 - 1 := rfl
    rw [full, all] at difference
    omega
  next above =>
    rw [UInt64.not_le, UInt64.lt_iff_toNat_lt, UInt64.toNat_one] at above
    exact UInt64.toNat_inj.mp (by rw [UInt64.toNat_zero]; omega)

theorem exists_between_one_iff : (∃ zipfian, between 1 items = .ok zipfian) ↔ supported items := by
  constructor
  · rintro ⟨zipfian, made⟩
    rcases bind_eq_ok_iff.mp made with ⟨_, checked, _⟩
    rw [itemsBetween_one] at checked
    exact checkItems_eq_ok_iff.mp checked
  · intro support
    refine ⟨_, bind_eq_ok_iff.mpr ⟨(), ?_, rfl⟩⟩
    rw [itemsBetween_one]
    exact checkItems_eq_ok_iff.mpr support

end Zipfian

theorem Uniform.exists_between_iff {lower upper : UInt64} :
    (∃ uniform, between lower upper = .ok uniform) ↔ lower ≤ upper := by
  unfold between
  split <;> simp_all

theorem Scrambled.exists_below_iff {items : UInt64} :
    (∃ scattered, below items = .ok scattered) ↔ Zipfian.supported items := by
  constructor
  · rintro ⟨scattered, made⟩
    exact (below_of_ok made).ranks.support
  · intro support
    rcases Zipfian.exists_below_iff.mpr support with ⟨ranks, ranked⟩
    refine ⟨_, bind_eq_ok_iff.mpr ⟨(), Zipfian.checkItems_eq_ok_iff.mpr support,
      bind_eq_ok_iff.mpr ⟨ranks, ?_, rfl⟩⟩⟩
    rw [Zipfian.itemsBetween_sub_one support]
    exact ranked

namespace LengthChoice

variable {name : String} {greatest : UInt64}

theorem exists_upTo_iff : (∃ choice, upTo greatest = .ok choice) ↔ 1 ≤ greatest.toNat := by
  rw [upTo, exists_map_eq_ok_iff, Uniform.exists_between_iff, UInt64.le_iff_toNat_le,
    UInt64.toNat_one]

theorem exists_mostlyShort_iff : (∃ choice, mostlyShort greatest = .ok choice) ↔
    2 ≤ greatest.toNat ∧ greatest.toNat < 2 ^ 40 := by
  rw [mostlyShort, exists_map_eq_ok_iff, Zipfian.exists_between_one_iff,
    Zipfian.supported_iff_toNat]

theorem exists_ofValues_iff : (∃ choice, ofValues name greatest = .ok choice) ↔
    name = "constant" ∨ Drawable name greatest := by
  unfold ofValues
  split
  · simp
  · simp [exists_upTo_iff, Drawable]
  · simp [exists_mostlyShort_iff, Drawable]
  · simp_all [Drawable]

theorem exists_ofScans_iff : (∃ choice, ofScans name greatest = .ok choice) ↔
    Drawable name greatest := by
  unfold ofScans
  split
  · simp [exists_upTo_iff, Drawable]
  · simp [exists_mostlyShort_iff, Drawable]
  · simp_all [Drawable]

end LengthChoice

theorem RequestDistribution.exists_ofName_iff {name : String} :
    (∃ distribution, ofName name = .ok distribution) ↔
      name = "uniform" ∨ name = "zipfian" ∨ name = "latest" := by
  unfold ofName
  split <;> simp_all

namespace KeyChoice

variable {records newest : UInt64} {operations? : Option UInt64} {weight : Float}

theorem exists_uniform : ∃ keys, make .uniform records operations? weight newest = .ok keys := by
  rcases Uniform.exists_between_iff.mpr (UInt64.zero_le : 0 ≤ records - 1) with ⟨even, made⟩
  exact ⟨.uniform even, bind_eq_ok_iff.mpr ⟨even, liftConfig_eq_ok_iff.mpr made, rfl⟩⟩

theorem exists_zipfian_iff :
    (∃ keys, make .zipfian records operations? weight newest = .ok keys) ↔
      ∃ operations, operations? = some operations ∧
        2 ≤ records.toNat + (reserve operations weight).toNat ∧
        records.toNat + (reserve operations weight).toNat < 2 ^ 40 := by
  cases operations? with
  | none => exact iff_of_false nofun nofun
  | some operations =>
      constructor
      · rintro ⟨keys, made⟩
        rcases bind_eq_ok_iff.mp made with ⟨items, added, made⟩
        rcases bind_eq_ok_iff.mp made with ⟨scattered, scatteredMade, _⟩
        have support := Scrambled.exists_below_iff.mp ⟨_, liftConfig_eq_ok_iff.mp scatteredMade⟩
        rw [Zipfian.supported_iff_toNat,
          checkedAdd_eq_ok_iff.mp (liftCrash_eq_ok_iff.mp added)] at support
        exact ⟨operations, rfl, support⟩
      · rintro ⟨_, same, few⟩
        cases same
        have sum : (records + reserve operations weight).toNat =
            records.toNat + (reserve operations weight).toNat := by
          rw [UInt64.toNat_add]
          omega
        rcases Scrambled.exists_below_iff.mpr
          (Zipfian.supported_iff_toNat.mpr (sum.symm ▸ few)) with ⟨scattered, made⟩
        exact ⟨.scrambled scattered, bind_eq_ok_iff.mpr
          ⟨_, liftCrash_eq_ok_iff.mpr (checkedAdd_eq_ok_iff.mpr sum),
            bind_eq_ok_iff.mpr ⟨scattered, liftConfig_eq_ok_iff.mpr made, rfl⟩⟩⟩

theorem exists_latest_iff :
    (∃ keys, make .latest records operations? weight newest = .ok keys) ↔
      Zipfian.supported newest := by
  rw [← Latest.exists_upTo_iff]
  constructor
  · rintro ⟨keys, made⟩
    rcases bind_eq_ok_iff.mp made with ⟨recent, made, _⟩
    exact ⟨recent, liftConfig_eq_ok_iff.mp made⟩
  · rintro ⟨recent, made⟩
    exact ⟨_, bind_eq_ok_iff.mpr ⟨recent, liftConfig_eq_ok_iff.mpr made, rfl⟩⟩

end KeyChoice

namespace Workload

variable {properties : Properties} {proportions : Proportions}

theorem operationCountOf_eq_some_iff {operations : UInt64} :
    operationCountOf properties = .ok (some operations) ↔
      properties.getNatural "operationcount" = .ok operations := by
  unfold operationCountOf
  split
  next present => cases properties.getNatural "operationcount" <;> simp [Except.map]
  next absent =>
    refine iff_of_false nofun fun read => ?_
    -- What can be read is there.
    simp only [Properties.getNatural, Properties.getInteger, bind_eq_ok_iff, liftConfig_eq_ok_iff,
      Properties.require_eq_ok_iff] at read
    rcases read with ⟨_, ⟨value, here, _⟩, _⟩
    exact absent (Option.isSome_iff_exists.mpr ⟨value, here⟩)

theorem insert_of_proportionsOf (weighed : proportionsOf properties = .ok proportions) :
    orDefault getFloat properties "insertproportion" 0 = .ok proportions.insert := by
  simp only [proportionsOf, bind_eq_ok_iff, pure_eq_ok_iff] at weighed
  rcases weighed with ⟨_, _, _, _, insert, read, _, _, _, _, rfl⟩
  exact read

theorem exists_mixOf_iff (weighed : proportionsOf properties = .ok proportions) :
    (∃ mix, mixOf proportions = .ok mix) ↔
      ∃ entry ∈ Properties.proportionDefaults, ∃ weight,
        orDefault getFloat properties entry.1 entry.2 = .ok weight ∧ 0 < weight := by
  have positive : (∃ mix, mixOf proportions = .ok mix) ↔
      ∃ entry ∈ proportions.weights, 0 < entry.2 := by
    simp only [mixOf_eq_ok_iff, exists_and_left, exists_eq, and_true, Proportions.positive, ne_eq,
      List.filter_eq_nil_iff, decide_eq_true_eq, not_forall, not_not, exists_prop]
  simp only [proportionsOf, bind_eq_ok_iff, pure_eq_ok_iff] at weighed
  rcases weighed with ⟨_, read, _, update, _, insert, _, scan, _, readModifyWrite, rfl⟩
  rw [positive]
  simp [Proportions.weights, Properties.proportionDefaults, read, update, insert, scan,
    readModifyWrite]

theorem exists_keyOrderOf_iff {name : String}
    (named : orDefault getText properties "insertorder" "hashed" = .ok name) :
    (∃ order, keyOrderOf properties = .ok order) ↔ name = "hashed" ∨ name = "ordered" := by
  rw [keyOrderOf, named]
  simp only [bind, Except.bind]
  split <;> simp_all [pure, Except.pure, throw, throwThe, MonadExceptOf.throw]

end Workload

/-! ## What can be read -/

namespace Properties

open Workload (proportionsOf operationCountOf)

variable {properties : Properties}

def Readable (properties : Properties) : Prop :=
  ∀ entry ∈ recognised, (Check.readable entry.2 entry.1).run properties = .ok ()

theorem readable_iff : properties.Readable ↔ ∀ entry ∈ recognised,
    properties.contains entry.1 → Check.read entry.2 properties entry.1 = .ok () := by
  simp only [Readable, Check.run, ite_eq_right_iff]

theorem exists_of_failsAs {α : Type} {result : Except Failure α} {checks : List Check}
    (fails : FailsAs properties result checks)
    (passes : ∀ check ∈ checks, check.run properties = .ok ()) : ∃ value, result = .ok value := by
  rw [← outcomeOf_eq_ok_iff, fails, forM_eq_ok_iff]
  exact passes

namespace Readable

variable (readable : properties.Readable)

include readable

theorem natural (key : String) (member : (key, .natural) ∈ recognised) (default : UInt64) :
    ∃ value, orDefault getNatural properties key default = .ok value :=
  exists_of_failsAs (.orDefault rfl)
    (List.forall_mem_singleton.mpr (readable (key, .natural) member))

theorem text (key : String) (member : (key, .text) ∈ recognised) (default : String) :
    ∃ value, orDefault getText properties key default = .ok value :=
  exists_of_failsAs (.orDefault rfl)
    (List.forall_mem_singleton.mpr (readable (key, .text) member))

theorem exists_operationCount : ∃ operations?, operationCountOf properties = .ok operations? :=
  exists_of_failsAs .operationCountOf
    (List.forall_mem_singleton.mpr (readable ("operationcount", .natural) (by decide)))

theorem exists_proportions : ∃ proportions, proportionsOf properties = .ok proportions := by
  refine exists_of_failsAs .proportionsOf ?_
  simp only [List.forall_mem_cons]
  refine ⟨readable (_, .float) ?_, readable (_, .float) ?_, readable (_, .float) ?_,
    readable (_, .float) ?_, readable (_, .float) ?_, nofun⟩ <;> decide

end Readable
end Properties

/-! ## What is checked -/

namespace Check

variable {properties : Properties}

theorem run_records_iff (readable : properties.Readable) :
    (present "recordcount").run properties = .ok () ∧
      (positive "recordcount" 0).run properties = .ok () ↔
    ∃ records, properties.getNatural "recordcount" = .ok records ∧ 1 ≤ records.toNat := by
  have positive_iff {records : UInt64} (read : properties.getNatural "recordcount" = .ok records) :
      (positive "recordcount" 0).run properties = .ok () ↔ 1 ≤ records.toNat := by
    rw [run, whenRead_ok (orDefault_of_getNatural read), liftConfig_eq_ok_iff,
      Workload.atLeastOne_eq_ok_iff, ne_eq, ← UInt64.toNat_inj, UInt64.toNat_zero]
    omega
  constructor
  · rintro ⟨present, positive⟩
    rcases Properties.exists_of_failsAs (.getNatural "recordcount")
      (List.forall_mem_cons.mpr ⟨present, List.forall_mem_singleton.mpr
        (readable ("recordcount", .natural) (by decide))⟩) with ⟨records, read⟩
    exact ⟨records, read, (positive_iff read).mp positive⟩
  · rintro ⟨records, read, positive⟩
    rcases bind_eq_ok_iff.mp read with ⟨_, required, _⟩
    rcases bind_eq_ok_iff.mp required with ⟨value, here, _⟩
    exact ⟨outcomeOf_eq_ok_iff.mpr ⟨value, here⟩, (positive_iff read).mpr positive⟩

theorem run_fields_iff (readable : properties.Readable) :
    (positive "fieldcount" 10).run properties = .ok () ↔
      ∃ fields, orDefault getNatural properties "fieldcount" 10 = .ok fields ∧
        1 ≤ fields.toNat := by
  rw [run, whenRead_eq_ok_iff (readable.natural _ (by decide) 10)]
  simp only [liftConfig_eq_ok_iff, Workload.atLeastOne_eq_ok_iff, ne_eq, ← UInt64.toNat_inj,
    UInt64.toNat_zero, Nat.one_le_iff_ne_zero]

theorem run_valueLength_iff (readable : properties.Readable) :
    valueLength.run properties = .ok () ↔
      ∃ greatest, orDefault getNatural properties "fieldlength" 100 = .ok greatest ∧
        ∃ name, orDefault getText properties "field_len_dist" "constant" = .ok name ∧
          (name = "constant" ∨ LengthChoice.Drawable name greatest) := by
  rw [run, whenRead_eq_ok_iff (readable.natural _ (by decide) 100)]
  simp only [whenRead_eq_ok_iff (readable.text "field_len_dist" (by decide) "constant"),
    outcomeOf_eq_ok_iff, liftConfig_eq_ok_iff, LengthChoice.exists_ofValues_iff]

theorem run_scanLength_iff (readable : properties.Readable) :
    scanLength.run properties = .ok () ↔
      ∃ greatest, orDefault getNatural properties "maxscanlength" 1000 = .ok greatest ∧
        ∃ name, orDefault getText properties "scanlengthdistribution" "uniform" = .ok name ∧
          LengthChoice.Drawable name greatest := by
  rw [run, whenRead_eq_ok_iff (readable.natural _ (by decide) 1000)]
  simp only [whenRead_eq_ok_iff (readable.text "scanlengthdistribution" (by decide) "uniform"),
    outcomeOf_eq_ok_iff, liftConfig_eq_ok_iff, LengthChoice.exists_ofScans_iff]

theorem run_mix_iff (readable : properties.Readable) :
    mix.run properties = .ok () ↔
      ∃ entry ∈ Properties.proportionDefaults, ∃ weight,
        orDefault getFloat properties entry.1 entry.2 = .ok weight ∧ 0 < weight := by
  rcases readable.exists_proportions with ⟨proportions, weighed⟩
  rw [run, whenRead_ok weighed, outcomeOf_eq_ok_iff, ← Workload.exists_mixOf_iff weighed]
  simp only [liftConfig_eq_ok_iff]

theorem run_keyOrder_iff (readable : properties.Readable) :
    keyOrder.run properties = .ok () ↔
      ∃ name, orDefault getText properties "insertorder" "hashed" = .ok name ∧
        (name = "hashed" ∨ name = "ordered") := by
  rcases readable.text "insertorder" (by decide) "hashed" with ⟨name, named⟩
  rw [run, whenRead_ok named, outcomeOf_eq_ok_iff, Workload.exists_keyOrderOf_iff named]
  simp [named]

theorem run_room_iff (readable : properties.Readable) :
    room.run properties = .ok () ↔
      ∃ fields, orDefault getNatural properties "fieldcount" 10 = .ok fields ∧
        24 * fields.toNat < 2 ^ 63 := by
  have half : UInt64.size / 2 = 2 ^ 63 := rfl
  rw [run, whenRead_eq_ok_iff (readable.natural _ (by decide) 10)]
  simp only [liftCrash_eq_ok_iff, checkCapacity, half, ite_eq_left_iff, reduceCtorEq, imp_false,
    not_not]

theorem run_keys_iff {records : UInt64} {operations? : Option UInt64} {proportions : Proportions}
    {name : String} {distribution : RequestDistribution}
    (counted : properties.getNatural "recordcount" = .ok records)
    (transactions : Workload.operationCountOf properties = .ok operations?)
    (weighed : Workload.proportionsOf properties = .ok proportions)
    (named : orDefault getText properties "requestdistribution" "uniform" = .ok name)
    (known : RequestDistribution.ofName name = .ok distribution) :
    keys.run properties = .ok () ↔ ∃ keys, KeyChoice.make distribution records operations?
      proportions.insert (Frontier.startingAt records).last = .ok keys := by
  have read : requestsOf properties = .ok distribution := by
    rw [requestsOf, named]
    exact liftConfig_eq_ok_iff.mpr known
  rw [run, whenRead_ok counted, whenRead_ok transactions, whenRead_ok weighed, whenRead_ok read,
    outcomeOf_eq_ok_iff]

theorem run_requests_iff (readable : properties.Readable)
    (records : ∃ records, properties.getNatural "recordcount" = .ok records ∧
      1 ≤ records.toNat) :
    requestDistribution.run properties = .ok () ∧ keys.run properties = .ok () ↔
      ∃ records, properties.getNatural "recordcount" = .ok records ∧
        ∃ name, orDefault getText properties "requestdistribution" "uniform" = .ok name ∧
          properties.Aimable records name := by
  rcases records with ⟨records, counted, positive⟩
  rcases readable.text "requestdistribution" (by decide) "uniform" with ⟨name, named⟩
  rcases readable.exists_operationCount with ⟨operations?, transactions⟩
  rcases readable.exists_proportions with ⟨proportions, weighed⟩
  have distributions : requestDistribution.run properties = .ok () ↔
      name = "uniform" ∨ name = "zipfian" ∨ name = "latest" := by
    rw [run, whenRead_ok named, outcomeOf_eq_ok_iff]
    simp only [liftConfig_eq_ok_iff, RequestDistribution.exists_ofName_iff]
  have keys_iff {distribution : RequestDistribution}
      (known : RequestDistribution.ofName name = .ok distribution) :=
    run_keys_iff counted transactions weighed named known
  simp only [distributions, counted, named, Except.ok.injEq, exists_eq_left']
  by_cases uniform : name = "uniform"
  · subst uniform
    simp [keys_iff rfl, KeyChoice.exists_uniform, Properties.Aimable]
  by_cases zipfian : name = "zipfian"
  · subst zipfian
    have insert := Workload.insert_of_proportionsOf weighed
    simp only [keys_iff rfl, KeyChoice.exists_zipfian_iff, Properties.Aimable,
      ← Workload.operationCountOf_eq_some_iff, transactions, insert, Except.ok.injEq]
    simp
  by_cases latest : name = "latest"
  · subst latest
    have last : (Frontier.startingAt records).last.toNat + 1 = records.toNat :=
      Frontier.last_toNat (UInt64.lt_iff_toNat_lt.mpr positive)
    simp only [keys_iff rfl, KeyChoice.exists_latest_iff, Zipfian.supported_iff_toNat,
      Properties.Aimable, uniform, zipfian, false_and, false_or, true_and, or_true]
    omega
  simp [uniform, zipfian, latest, Properties.Aimable]

end Check

/-! ## Acceptance -/

namespace Workload

variable {properties : Properties}

theorem forall_mem_checks_iff {passed : Check → Prop} :
    (∀ check ∈ checks, passed check) ↔
      (∀ entry ∈ Properties.recognised, passed (.readable entry.2 entry.1)) ∧
      (passed (.present "recordcount") ∧ passed (.positive "recordcount" 0)) ∧
      passed (.positive "fieldcount" 10) ∧ passed .valueLength ∧ passed .mix ∧ passed .keyOrder ∧
      (passed .requestDistribution ∧ passed .keys) ∧ passed .scanLength ∧ passed .room := by
  simp only [checks, Properties.recognised, List.forall_mem_cons]
  tauto

theorem passes_iff :
    (∀ check ∈ checks, check.run properties = .ok ()) ↔
      properties.Sound ∧ ∃ fields, orDefault getNatural properties "fieldcount" 10 = .ok fields ∧
        24 * fields.toNat < 2 ^ 63 := by
  rw [forall_mem_checks_iff]
  constructor
  · rintro ⟨readable, recordsChecked, fields, valueLength, mix, keyOrder, requests, scanLength,
      room⟩
    have records := (Check.run_records_iff readable).mp recordsChecked
    exact ⟨{
      readable := Properties.readable_iff.mp readable
      records
      fields := (Check.run_fields_iff readable).mp fields
      valueLength := (Check.run_valueLength_iff readable).mp valueLength
      mix := (Check.run_mix_iff readable).mp mix
      keyOrder := (Check.run_keyOrder_iff readable).mp keyOrder
      requests := (Check.run_requests_iff readable records).mp requests
      scanLength := (Check.run_scanLength_iff readable).mp scanLength },
      (Check.run_room_iff readable).mp room⟩
  · rintro ⟨sound, room⟩
    have readable := Properties.readable_iff.mpr sound.readable
    exact ⟨readable, (Check.run_records_iff readable).mpr sound.records,
      (Check.run_fields_iff readable).mpr sound.fields,
      (Check.run_valueLength_iff readable).mpr sound.valueLength,
      (Check.run_mix_iff readable).mpr sound.mix,
      (Check.run_keyOrder_iff readable).mpr sound.keyOrder,
      (Check.run_requests_iff readable sound.records).mpr sound.requests,
      (Check.run_scanLength_iff readable).mpr sound.scanLength,
      (Check.run_room_iff readable).mpr room⟩

/-- Properties describe a workload exactly if they are sound and there is room for the names of
all fields. The frontier of the workload is the number before that of its records, and it hands
out numbers from the given start on. -/
theorem ofProperties_accepts_iff :
    ((∃ workload, ofProperties properties = .ok workload) ↔
      properties.Sound ∧ ∃ fields, orDefault getNatural properties "fieldcount" 10 = .ok fields ∧
        24 * fields.toNat < 2 ^ 63) ∧
    ∀ workload, ofProperties properties = .ok workload →
      (∃ records, properties.getNatural "recordcount" = .ok records ∧
        workload.frontier.last.toNat + 1 = records.toNat ∧ workload.frontier.pending = 0) ∧
      orDefault getNatural properties "insertstart" 0 = .ok workload.keySequence.upcoming := by
  constructor
  · rw [← passes_iff, ← outcomeOf_eq_ok_iff, failsAs_ofProperties, forM_eq_ok_iff]
  · intro workload accepted
    have configured := configured_of_ofProperties accepted
    rcases configured.keySequence with ⟨first, firstRead, sequence⟩
    rw [configured.frontier, sequence]
    exact ⟨⟨workload.recordCount, configured.recordCount,
      Frontier.last_toNat configured.recordCount_positive, rfl⟩, firstRead⟩

theorem ofProperties_accepts_iff_onePair :
    onePair.Sound ∧ ofProperties onePair = .ok ofOnePair ∧
      ofOnePair.frontier.last = 0 ∧ ofOnePair.keySequence.upcoming = 0 := by
  have sound := (ofProperties_accepts_iff.1.mp ⟨ofOnePair, ofProperties_onePair⟩).1
  rcases ofProperties_accepts_iff.2 ofOnePair ofProperties_onePair with
    ⟨⟨records, counted, last, _⟩, first⟩
  cases counted
  cases first
  exact ⟨sound, ofProperties_onePair, UInt64.toNat_inj.mp (Nat.succ.inj last), rfl⟩

/-- More fields than there is room for the names of, though any positive number is in bounds. -/
def crowdedFields : Properties where
  table := [("recordcount", .integer 1), ("fieldcount", .integer 4611686018427387904)]

theorem sound_crowdedFields : crowdedFields.Sound where
  readable := by
    rw [← Properties.readable_iff, Properties.Readable]
    simp only [Properties.recognised, List.forall_mem_cons]
    and_intros <;> first | rfl | exact nofun
  records := ⟨1, rfl, by decide⟩
  fields := ⟨4611686018427387904, rfl, by decide⟩
  valueLength := ⟨100, rfl, "constant", rfl, .inl rfl⟩
  mix := ⟨("readproportion", 0.95), by simp [Properties.proportionDefaults], 0.95, rfl, by decide⟩
  keyOrder := ⟨"hashed", rfl, .inl rfl⟩
  requests := ⟨1, rfl, "uniform", rfl, .inl rfl⟩
  scanLength := ⟨1000, rfl, "uniform", rfl, .inl ⟨rfl, by decide⟩⟩

theorem not_every_sound_accepted :
    ¬∀ properties : Properties, properties.Sound →
      ∃ workload, ofProperties properties = .ok workload := by
  intro always
  rcases always crowdedFields sound_crowdedFields with ⟨workload, accepted⟩
  have crashed : ofProperties crowdedFields = .error (.crashed .capacityOverflow) := by
    apply crashOf?_eq_some_iff.mp
    decide +kernel
  rw [crashed] at accepted
  cases accepted

end Workload
end StoreBench
