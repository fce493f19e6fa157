import StoreBench.Proofs.Drawing.Choices
import StoreBench.Workload.Configured

namespace StoreBench

/-! What is known of a workload that properties describe: where each of its parts comes
from, and which checks it has passed. -/

theorem liftConfig_eq_ok_iff {α : Type} {result : Except ConfigError α} {value : α} :
    (liftM result : Except Failure α) = .ok value ↔ result = .ok value := by
  cases result with
  | error fault => exact ⟨nofun, nofun⟩
  | ok read =>
      have lifted : (liftM (.ok read : Except ConfigError α) : Except Failure α) = .ok read := rfl
      rw [lifted, Except.ok.injEq, Except.ok.injEq]

theorem liftCrash_eq_ok_iff {α : Type} {result : Except Crash α} {value : α} :
    (liftM result : Except Failure α) = .ok value ↔ result = .ok value := by
  cases result with
  | error crash => exact ⟨nofun, nofun⟩
  | ok read =>
      have lifted : (liftM (.ok read : Except Crash α) : Except Failure α) = .ok read := rfl
      rw [lifted, Except.ok.injEq, Except.ok.injEq]

namespace Workload

open Properties (orDefault getText getNatural getFloat getBool)

theorem atLeastOne_eq_ok_iff {what : String} {number : UInt64} :
    atLeastOne what number = .ok () ↔ number ≠ 0 := by
  unfold atLeastOne
  split <;> simp_all

/-- The parts of a workload against the properties that they are made of. -/
structure Configured (properties : Properties) (workload : Workload) : Prop where
  table : orDefault getText properties "table" "usertable" = .ok workload.table
  recordCount : getNatural properties "recordcount" = .ok workload.recordCount
  recordCount_ne_zero : workload.recordCount ≠ 0
  operationCount : operationCountOf properties = .ok workload.operationCount?
  keySequence : ∃ first, orDefault getNatural properties "insertstart" 0 = .ok first ∧
    workload.keySequence = Counter.startingAt first
  fieldCount : orDefault getNatural properties "fieldcount" 10 = .ok workload.fieldCount
  fieldCount_ne_zero : workload.fieldCount ≠ 0
  valueLength : ∃ greatest name,
    orDefault getNatural properties "fieldlength" 100 = .ok greatest ∧
    orDefault getText properties "field_len_dist" "constant" = .ok name ∧
    LengthChoice.ofValues name greatest = .ok workload.valueLength
  readAllFields : orDefault getBool properties "readallfields" true = .ok workload.readAllFields
  writeAllFields :
    orDefault getBool properties "writeallfields" false = .ok workload.writeAllFields
  keyOrder : keyOrderOf properties = .ok workload.keyOrder
  requestDistribution : ∃ name,
    orDefault getText properties "requestdistribution" "uniform" = .ok name ∧
    RequestDistribution.ofName name = .ok workload.requestDistribution
  frontier : workload.frontier = Frontier.startingAt workload.recordCount
  proportions : ∃ proportions, proportionsOf properties = .ok proportions ∧
    mixOf proportions = .ok workload.operations ∧
    KeyChoice.make workload.requestDistribution workload.recordCount workload.operationCount?
      proportions.insert (Frontier.startingAt workload.recordCount).last = .ok workload.keys
  fields : Uniform.between 0 (workload.fieldCount - 1) = .ok workload.fields
  scanLength : ∃ greatest name,
    orDefault getNatural properties "maxscanlength" 1000 = .ok greatest ∧
    orDefault getText properties "scanlengthdistribution" "uniform" = .ok name ∧
    LengthChoice.ofScans name greatest = .ok workload.scanLength
  room : checkCapacity 24 workload.fieldCount.toNat = .ok ()

theorem Configured.recordCount_positive {properties : Properties} {workload : Workload}
    (configured : Configured properties workload) : 0 < workload.recordCount :=
  UInt64.pos_iff_ne_zero.mpr configured.recordCount_ne_zero

theorem Configured.keySequence_eq {properties : Properties} {workload : Workload} {first : UInt64}
    (configured : Configured properties workload)
    (starts : orDefault getNatural properties "insertstart" 0 = .ok first) :
    workload.keySequence = Counter.startingAt first := by
  rcases configured.keySequence with ⟨other, read, same⟩
  cases starts.symm.trans read
  exact same

theorem Configured.of_proportions {properties : Properties} {workload : Workload}
    {proportions : Proportions} (configured : Configured properties workload)
    (read : proportionsOf properties = .ok proportions) :
    mixOf proportions = .ok workload.operations ∧
      KeyChoice.make workload.requestDistribution workload.recordCount workload.operationCount?
        proportions.insert (Frontier.startingAt workload.recordCount).last =
          .ok workload.keys := by
  rcases configured.proportions with ⟨_, readAgain, parts⟩
  cases read.symm.trans readAgain
  exact parts

theorem configured_of_ofProperties {properties : Properties} {workload : Workload}
    (accepted : ofProperties properties = .ok workload) : Configured properties workload := by
  simp only [ofProperties, bind_eq_ok_iff, liftConfig_eq_ok_iff, liftCrash_eq_ok_iff,
    pure_eq_ok_iff] at accepted
  rcases accepted with
    ⟨table, tableRead, recordCount, recordCountRead, _, recordCountChecked,
      operationCount, operationCountRead, first, firstRead, fieldCount, fieldCountRead, _,
      fieldCountChecked, greatestLength, greatestLengthRead, lengths, lengthsRead, valueLength,
      valueLengthMade, readAllFields, readAllFieldsRead, writeAllFields, writeAllFieldsRead,
      proportions, proportionsRead, operations, operationsMade, keyOrder, keyOrderRead, requests,
      requestsRead, requestDistribution, requestDistributionRead, keys, keysMade, fields,
      fieldsMade, greatestScan, greatestScanRead, scans, scansRead, scanLength, scanLengthMade, _,
      room, rfl⟩
  exact {
    table := tableRead
    recordCount := recordCountRead
    recordCount_ne_zero := atLeastOne_eq_ok_iff.mp recordCountChecked
    operationCount := operationCountRead
    keySequence := ⟨first, firstRead, rfl⟩
    fieldCount := fieldCountRead
    fieldCount_ne_zero := atLeastOne_eq_ok_iff.mp fieldCountChecked
    valueLength := ⟨greatestLength, lengths, greatestLengthRead, lengthsRead, valueLengthMade⟩
    readAllFields := readAllFieldsRead
    writeAllFields := writeAllFieldsRead
    keyOrder := keyOrderRead
    requestDistribution := ⟨requests, requestsRead, requestDistributionRead⟩
    frontier := rfl
    proportions := ⟨proportions, proportionsRead, operationsMade, keysMade⟩
    fields := fieldsMade
    scanLength := ⟨greatestScan, scans, greatestScanRead, scansRead, scanLengthMade⟩
    room }

/-- Nothing more is needed for properties to be accepted. -/
theorem Configured.ofProperties_eq {properties : Properties} {workload : Workload}
    (configured : Configured properties workload) : ofProperties properties = .ok workload := by
  rcases configured.keySequence with ⟨first, firstRead, sequence⟩
  rcases configured.valueLength with
    ⟨greatestLength, lengths, greatestLengthRead, lengthsRead, valueLengthMade⟩
  rcases configured.requestDistribution with ⟨requests, requestsRead, distributionRead⟩
  rcases configured.proportions with ⟨proportions, proportionsRead, operationsMade, keysMade⟩
  rcases configured.scanLength with
    ⟨greatestScan, scans, greatestScanRead, scansRead, scanLengthMade⟩
  have frontier := configured.frontier
  simp only [ofProperties, bind_eq_ok_iff, liftConfig_eq_ok_iff, liftCrash_eq_ok_iff,
    pure_eq_ok_iff]
  refine ⟨_, configured.table, _, configured.recordCount, _,
    atLeastOne_eq_ok_iff.mpr configured.recordCount_ne_zero, _, configured.operationCount, _,
    firstRead, _, configured.fieldCount, _, atLeastOne_eq_ok_iff.mpr configured.fieldCount_ne_zero,
    _, greatestLengthRead, _, lengthsRead, _, valueLengthMade, _, configured.readAllFields, _,
    configured.writeAllFields, _, proportionsRead, _, operationsMade, _, configured.keyOrder, _,
    requestsRead, _, distributionRead, _, keysMade, _, configured.fields, _, greatestScanRead, _,
    scansRead, _, scanLengthMade, _, configured.room, ?_⟩
  rw [← sequence, ← frontier]

def onePair : Properties where
  table := [("recordcount", .integer 1), ("fieldcount", .integer 1),
    ("fieldlength", .integer 1), ("readproportion", .float 0.5),
    ("updateproportion", .float 0), ("insertproportion", .float 0.5)]

def ofOnePair : Workload where
  table := "usertable"
  fieldCount := 1
  readAllFields := true
  writeAllFields := false
  keyOrder := .hashed
  recordCount := 1
  operationCount? := none
  requestDistribution := .uniform
  valueLength := .constant 1
  scanLength := .uniform ⟨1, 1000, 1, by decide⟩
  operations := ⟨[(.read, 0.5), (.insert, 0.5)], 1, none⟩
  keys := .uniform ⟨0, 0, 0, by decide⟩
  fields := ⟨0, 0, 0, by decide⟩
  keySequence := .startingAt 0
  frontier := .startingAt 1

theorem ofProperties_onePair : ofProperties onePair = .ok ofOnePair := rfl

end Workload

def Uniform.upTo (upper : UInt64) : Uniform := ⟨0, upper, 0, UInt64.zero_le⟩

def Workload.everyOperation : Properties where
  table := [("recordcount", .integer 2), ("fieldcount", .integer 2), ("fieldlength", .integer 1),
    ("maxscanlength", .integer 3), ("readallfields", .boolean false), ("readproportion", .float 1),
    ("updateproportion", .float 1), ("insertproportion", .float 1), ("scanproportion", .float 1),
    ("readmodifywriteproportion", .float 1)]

def Workload.ofEveryOperation : Workload :=
  { ofOnePair with
    fieldCount := 2
    readAllFields := false
    recordCount := 2
    scanLength := .uniform ⟨1, 3, 1, by decide⟩
    operations := Proportions.mix ⟨1, 1, 1, 1, 1⟩
    keys := .uniform (.upTo 1)
    fields := .upTo 1
    frontier := .startingAt 2 }

theorem Workload.ofProperties_everyOperation :
    ofProperties everyOperation = .ok ofEveryOperation := rfl

/-- A word that makes a worker choose an operation, each from its own fifth of all words. -/
def Workload.wordFor : Operation → UInt64
  | .read => 0
  | .update => 5534023222112865485
  | .insert => 9223372036854775808
  | .scan => 12912720851596686131
  | .readModifyWrite => 18446744073709551615

end StoreBench
