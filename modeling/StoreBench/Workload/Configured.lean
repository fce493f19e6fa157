import StoreBench.Config.Failure
import StoreBench.Properties
import StoreBench.Workload.Basic

namespace StoreBench

/-! The workload that properties describe. Properties are read in a fixed order, and
the first one that cannot be used is reported. -/

namespace Workload

open Properties (orDefault getText getNatural getFloat getBool)

def atLeastOne (what : String) (number : UInt64) : Except ConfigError Unit :=
  if number = 0 then .error (.outOfBounds what number 1 18446744073709551615) else .ok ()

def operationCountOf (properties : Properties) : Except Failure (Option UInt64) :=
  if properties.contains "operationcount" then
    (properties.getNatural "operationcount").map some
  else .ok none

def proportionsOf (properties : Properties) : Except Failure Proportions := do
  return {
    read := ← orDefault getFloat properties "readproportion" 0.95
    update := ← orDefault getFloat properties "updateproportion" 0.05
    insert := ← orDefault getFloat properties "insertproportion" 0
    scan := ← orDefault getFloat properties "scanproportion" 0
    readModifyWrite := ← orDefault getFloat properties "readmodifywriteproportion" 0 }

def mixOf (proportions : Proportions) : Except ConfigError (Weighted Operation) :=
  if proportions.positive.isEmpty then .error .emptyOperationMix else .ok proportions.mix

def keyOrderOf (properties : Properties) : Except Failure KeyOrder := do
  match ← orDefault getText properties "insertorder" "hashed" with
  | "hashed" => return .hashed
  | "ordered" => return .ordered
  | other => throw (.refused (.invalidValue "insertorder" other "\"hashed\" or \"ordered\""))

def ofProperties (properties : Properties) : Except Failure Workload := do
  let table ← orDefault getText properties "table" "usertable"
  let recordCount ← getNatural properties "recordcount"
  atLeastOne "recordcount" recordCount
  let operationCount? ← operationCountOf properties
  let firstNumber ← orDefault getNatural properties "insertstart" 0
  let fieldCount ← orDefault getNatural properties "fieldcount" 10
  atLeastOne "fieldcount" fieldCount
  let greatestLength ← orDefault getNatural properties "fieldlength" 100
  let lengths ← orDefault getText properties "field_len_dist" "constant"
  let valueLength ← LengthChoice.ofValues lengths greatestLength
  let readAllFields ← orDefault getBool properties "readallfields" true
  let writeAllFields ← orDefault getBool properties "writeallfields" false
  let proportions ← proportionsOf properties
  let operations ← mixOf proportions
  let keyOrder ← keyOrderOf properties
  let frontier := Frontier.startingAt recordCount
  let requests ← orDefault getText properties "requestdistribution" "uniform"
  let requestDistribution ← RequestDistribution.ofName requests
  let keys ← KeyChoice.make requestDistribution recordCount operationCount?
    proportions.insert frontier.last
  let fields ← Uniform.between 0 (fieldCount - 1)
  let greatestScan ← orDefault getNatural properties "maxscanlength" 1000
  let scans ← orDefault getText properties "scanlengthdistribution" "uniform"
  let scanLength ← LengthChoice.ofScans scans greatestScan
  checkCapacity 24 fieldCount.toNat
  return {
    table, fieldCount, readAllFields, writeAllFields, keyOrder, recordCount
    operationCount?, requestDistribution, valueLength, scanLength, operations, keys
    fields, keySequence := Counter.startingAt firstNumber, frontier }

end Workload
end StoreBench
