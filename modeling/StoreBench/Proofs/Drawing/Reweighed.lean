import StoreBench.Proofs.Drawing.Proportions

namespace StoreBench

/-! Properties that differ in the proportions of the operations only, all five of them
multiplied by one power of two. A word chooses the same operation then, and transactions are
aimed at the same keys, exactly if no more and no less room is made for new keys. -/

namespace Properties

variable {α : Type}

def AgreeBut (keys : List String) (properties others : Properties) : Prop :=
  ∀ key ∉ keys, Entries.find? others.table key = Entries.find? properties.table key

def Local (get : Properties → String → Except Failure α) : Prop :=
  ∀ ⦃properties others key⦄,
    Entries.find? others.table key = Entries.find? properties.table key →
      get others key = get properties key

theorem require_congr {properties others : Properties} {key : String}
    (same : Entries.find? others.table key = Entries.find? properties.table key) :
    others.require key = properties.require key := by
  simp only [require, same]

theorem contains_congr {properties others : Properties} {key : String}
    (same : Entries.find? others.table key = Entries.find? properties.table key) :
    others.contains key = properties.contains key := by
  simp only [contains, same]

theorem local_getText : Local getText :=
  fun _ _ _ same => by rw [getText, getText, require_congr same]

theorem local_getNatural : Local getNatural :=
  fun _ _ _ same => by
    rw [getNatural, getNatural, getInteger, getInteger, require_congr same]

theorem local_getBool : Local getBool :=
  fun _ _ _ same => by rw [getBool, getBool, require_congr same]

theorem AgreeBut.orDefault_eq {keys : List String} {properties others : Properties}
    (agree : AgreeBut keys properties others) {get : Properties → String → Except Failure α}
    (onKey : Local get) {key : String} (other : key ∉ keys) (default : α) :
    orDefault get others key default = orDefault get properties key default := by
  have same := agree key other
  rw [orDefault, orDefault, contains_congr same, onKey same]

theorem agreeBut_refl (keys : List String) (properties : Properties) :
    AgreeBut keys properties properties := fun _ _ => rfl

theorem AgreeBut.set {keys : List String} {properties others : Properties}
    (agree : AgreeBut keys properties others) (key : String) (member : key ∈ keys)
    (value : Toml.Value) : AgreeBut keys properties (others.set key value) := by
  intro other notMember
  have different : other ≠ key := fun same => notMember (same ▸ member)
  exact (Entries.find?_put_other value others.table different).trans (agree other notMember)

end Properties

namespace KeyChoice

variable {distribution : RequestDistribution} {records newest : UInt64}
variable {operations? : Option UInt64} {insert other : Float} {keys : KeyChoice}

theorem make_congr (other : Float)
    (same : distribution = .zipfian → ∀ operations, operations? = some operations →
      reserve operations other = reserve operations insert) :
    make distribution records operations? other newest =
      make distribution records operations? insert newest := by
  cases distribution with
  | uniform => rfl
  | latest => rfl
  | zipfian =>
      cases operations? with
      | none => rfl
      | some operations =>
          have room := same rfl operations rfl
          simp only [make, room]

theorem reserve_eq_of_make {operations : UInt64}
    (made : make .zipfian records (some operations) insert newest = .ok keys)
    (also : make .zipfian records (some operations) other newest = .ok keys) :
    reserve operations other = reserve operations insert := by
  rcases items_of_make made with ⟨scattered, rfl, items⟩
  rcases items_of_make also with ⟨_, same, items'⟩
  cases same
  exact UInt64.toNat_inj.mp (by omega)

end KeyChoice

namespace Workload

open Properties (AgreeBut)
open Drawing

variable {properties others : Properties} {workload after : Workload}
variable {proportions multiples : Proportions} {power : ℤ}

def proportionKeys : List String :=
  ["readproportion", "updateproportion", "insertproportion", "scanproportion",
    "readmodifywriteproportion"]

theorem operationCountOf_eq_of_agreeBut (agree : AgreeBut proportionKeys properties others) :
    operationCountOf others = operationCountOf properties := by
  have same := agree "operationcount" (by decide)
  rw [operationCountOf, operationCountOf, Properties.contains_congr same,
    Properties.local_getNatural same]

theorem Configured.makes_keys (configured : Configured properties workload)
    (agree : AgreeBut proportionKeys properties others) (other : Configured others after)
    (read : proportionsOf others = .ok multiples) :
    KeyChoice.make workload.requestDistribution workload.recordCount workload.operationCount?
      multiples.insert (Frontier.startingAt workload.recordCount).last = .ok after.keys := by
  have made := (other.of_proportions read).2
  rcases configured.requestDistribution with ⟨name, named, distribution⟩
  rcases other.requestDistribution with ⟨name', named', distribution'⟩
  rw [agree.orDefault_eq Properties.local_getText (by decide)] at named'
  cases named.symm.trans named'
  have sameDistribution := Except.ok.inj (distribution.symm.trans distribution')
  have sameRecords := Except.ok.inj (configured.recordCount.symm.trans
    ((Properties.local_getNatural (agree "recordcount" (by decide))).symm.trans
      other.recordCount))
  have sameOperations := Except.ok.inj (configured.operationCount.symm.trans
    ((operationCountOf_eq_of_agreeBut agree).symm.trans other.operationCount))
  rw [sameDistribution, sameRecords, sameOperations]
  exact made

theorem Configured.operationCount_of_zipfian (configured : Configured properties workload)
    (zipfian : workload.requestDistribution = .zipfian) :
    workload.operationCount? = some workload.transactionCount := by
  rcases configured.proportions with ⟨_, _, _, made⟩
  rw [zipfian] at made
  cases given : workload.operationCount? with
  | none => rw [given] at made; cases made
  | some operations => rw [Plan.transactionCount, given, Option.getD_some]

theorem Configured.remix {mix : Weighted Operation} {keys : KeyChoice}
    (configured : Configured properties workload)
    (agree : AgreeBut proportionKeys properties others)
    (read : proportionsOf others = .ok multiples) (mixed : mixOf multiples = .ok mix)
    (made : KeyChoice.make workload.requestDistribution workload.recordCount
      workload.operationCount? multiples.insert
      (Frontier.startingAt workload.recordCount).last = .ok keys) :
    Configured others { workload with operations := mix, keys } := by
  have text {key : String} (other : key ∉ proportionKeys) (default : String) :=
    agree.orDefault_eq Properties.local_getText other default
  have natural {key : String} (other : key ∉ proportionKeys) (default : UInt64) :=
    agree.orDefault_eq Properties.local_getNatural other default
  have boolean {key : String} (other : key ∉ proportionKeys) (default : Bool) :=
    agree.orDefault_eq Properties.local_getBool other default
  have keyOrder : keyOrderOf others = keyOrderOf properties := by
    rw [keyOrderOf, keyOrderOf, text (by decide)]
  exact {
    table := (text (by decide) _).trans configured.table
    recordCount :=
      (Properties.local_getNatural (agree "recordcount" (by decide))).trans configured.recordCount
    recordCount_ne_zero := configured.recordCount_ne_zero
    operationCount := (operationCountOf_eq_of_agreeBut agree).trans configured.operationCount
    keySequence := by rw [natural (by decide)]; exact configured.keySequence
    fieldCount := (natural (by decide) _).trans configured.fieldCount
    fieldCount_ne_zero := configured.fieldCount_ne_zero
    valueLength := by
      rw [natural (by decide), text (by decide)]
      exact configured.valueLength
    readAllFields := (boolean (by decide) _).trans configured.readAllFields
    writeAllFields := (boolean (by decide) _).trans configured.writeAllFields
    keyOrder := keyOrder.trans configured.keyOrder
    requestDistribution := by rw [text (by decide)]; exact configured.requestDistribution
    frontier := configured.frontier
    proportions := ⟨multiples, read, mixed, made⟩
    fields := configured.fields
    scanLength := by
      rw [natural (by decide), text (by decide)]
      exact configured.scanLength
    room := configured.room }

def responses {σ : Type} [WordSource σ] (asks : List Ask) (workload : Workload) (source : σ) :
    Except Crash (List Response × σ) :=
  ((respondAll asks).run (workload, source)).map fun (responses, _, rest) => (responses, rest)

theorem responses_eq_of_remixed {σ : Type} [WordSource σ] {mix other : Weighted Operation}
    (same : ∀ word, other.select? (fractionOf word) = mix.select? (fractionOf word))
    (remixed : Remixed mix other workload after) (asks : List Ask) (source : σ) :
    responses asks after source = responses asks workload source := by
  unfold responses
  rcases blind_respondAll same asks source remixed with
    ⟨_, _, _, _, drawn, drawn', _⟩ | ⟨_, failed, failed'⟩
  · rw [drawn, drawn']
    rfl
  · rw [failed, failed']

/-- Proportions that are all multiplied by one power of two choose the same operations. The
properties are still accepted, with the same keys to aim at and the same responses to whatever
is asked, unless the keys are scattered and there is more or less room for new ones. -/
theorem ofProperties_multiples_iff (accepted : ofProperties properties = .ok workload)
    (read : proportionsOf properties = .ok proportions)
    (agree : AgreeBut proportionKeys properties others)
    (readMultiples : proportionsOf others = .ok multiples)
    (scaled : proportions.Scaled power multiples) (inRange : proportions.InRange multiples) :
    (∀ after, ofProperties others = .ok after → ∀ word,
      after.operations.select? (fractionOf word) =
        workload.operations.select? (fractionOf word)) ∧
    ((∃ after, ofProperties others = .ok after ∧ after.keys = workload.keys ∧
        ∀ {σ : Type} [WordSource σ] (asks : List Ask) (source : σ),
          responses asks after source = responses asks workload source) ↔
      (workload.requestDistribution = .zipfian →
        KeyChoice.reserve workload.transactionCount multiples.insert =
          KeyChoice.reserve workload.transactionCount proportions.insert)) := by
  have configured := configured_of_ofProperties accepted
  rcases configured.of_proportions read with ⟨mixed, made⟩
  have same := scaled.select?_mix inRange
  have mix := (mixOf_eq_ok_iff.mp mixed).2
  have mixedMultiples := scaled.mixOf_eq mixed
  refine ⟨fun after acceptedToo word => ?_, ⟨?_, ?_⟩⟩
  · have mixedToo := ((configured_of_ofProperties acceptedToo).of_proportions readMultiples).1
    rw [mix, (mixOf_eq_ok_iff.mp mixedToo).2, same word]
  · rintro ⟨after, acceptedToo, keys, _⟩ zipfian
    have madeToo := configured.makes_keys agree (configured_of_ofProperties acceptedToo)
      readMultiples
    have given := configured.operationCount_of_zipfian zipfian
    rw [keys, zipfian, given] at madeToo
    rw [zipfian, given] at made
    exact KeyChoice.reserve_eq_of_make made madeToo
  · intro room
    rw [← KeyChoice.make_congr multiples.insert] at made
    · have remixed := configured.remix agree readMultiples mixedMultiples made
      refine ⟨_, remixed.ofProperties_eq, rfl, ?_⟩
      intro σ _ asks source
      exact responses_eq_of_remixed same ⟨rfl, mix ▸ rfl, rfl⟩ asks source
    · intro zipfian operations given
      cases given.symm.trans (configured.operationCount_of_zipfian zipfian)
      exact room zipfian

theorem exists_of_isSome (accepted : (ofProperties properties).toOption.isSome) :
    ∃ workload, ofProperties properties = .ok workload := by
  rcases Option.isSome_iff_exists.mp accepted with ⟨workload, same⟩
  exact ⟨workload, toOption_eq_some_iff.mp same⟩

def evenMix : Properties where
  table := [("recordcount", .integer 2), ("operationcount", .integer 1),
    ("requestdistribution", .text "zipfian"), ("readproportion", .float 0.5),
    ("updateproportion", .float 0.5)]

/-- Both weights can be one as well as one half. -/
theorem ofProperties_multiples_iff_evenMix :
    ∃ workload after, ofProperties evenMix = .ok workload ∧
      ofProperties ((evenMix.set "readproportion" (.float 1)).set "updateproportion" (.float 1)) =
        .ok after ∧ after.keys = workload.keys ∧
      ∀ {σ : Type} [WordSource σ] (asks : List Ask) (source : σ),
        responses asks after source = responses asks workload source := by
  rcases exists_of_isSome (show (ofProperties evenMix).toOption.isSome by decide +kernel) with
    ⟨workload, accepted⟩
  have half : (0.5 : Float).toModel.unpack = .finite .positive (2 ^ 52) (-53) (by decide) := rfl
  have scaled : Proportions.Scaled 1 ⟨0.5, 0.5, 0, 0, 0⟩ ⟨1, 1, 0, 0, 0⟩ :=
    ⟨.of_unpack half rfl, .of_unpack half rfl, .zero, .zero, .zero⟩
  have agree := ((Properties.agreeBut_refl proportionKeys evenMix).set "readproportion"
    (by decide) (.float 1)).set "updateproportion" (by decide) (.float 1)
  have inRange : Proportions.InRange ⟨0.5, 0.5, 0, 0, 0⟩ ⟨1, 1, 0, 0, 0⟩ :=
    ⟨by decide +kernel, by decide +kernel, by decide +kernel⟩
  rcases (ofProperties_multiples_iff accepted rfl agree rfl scaled inRange).2.mpr
    (fun _ => rfl) with ⟨after, acceptedToo, same⟩
  exact ⟨workload, after, accepted, acceptedToo, same⟩

def oneInsert : Properties where
  table := [("recordcount", .integer 1), ("operationcount", .integer 1),
    ("requestdistribution", .text "zipfian"), ("readproportion", .float 0),
    ("updateproportion", .float 0), ("insertproportion", .float 1)]

/-- A quarter of the weight, which is still all the weight there is. -/
def oneInsertQuartered : Properties := oneInsert.set "insertproportion" (.float 0.25)

def outOfBounds? {α : Type} : Except Failure α → Option (String × UInt64 × UInt64 × UInt64)
  | .error (.refused (.outOfBounds what number lower upper)) => some (what, number, lower, upper)
  | _ => none

theorem outOfBounds?_eq_some_iff {α : Type} {result : Except Failure α} {what : String}
    {number lower upper : UInt64} :
    outOfBounds? result = some (what, number, lower, upper) ↔
      result = .error (.refused (.outOfBounds what number lower upper)) := by
  rcases result with (error | _) | _
  · cases error <;> simp [outOfBounds?]
  · simp [outOfBounds?]
  · simp [outOfBounds?]

/-- No room is made for a new key then, and a single key is refused. -/
theorem ofProperties_oneInsertQuartered : ofProperties oneInsertQuartered =
    .error (.refused (.outOfBounds "zipfian item count" 1 2 1099511627775)) := by
  apply outOfBounds?_eq_some_iff.mp
  decide +kernel

theorem not_every_multiple_accepted :
    ¬∀ properties others workload proportions multiples power,
      ofProperties properties = .ok workload → proportionsOf properties = .ok proportions →
      AgreeBut proportionKeys properties others → proportionsOf others = .ok multiples →
      proportions.Scaled power multiples → proportions.InRange multiples →
      ∃ after, ofProperties others = .ok after := by
  intro always
  rcases exists_of_isSome (show (ofProperties oneInsert).toOption.isSome by decide +kernel) with
    ⟨workload, accepted⟩
  have one : (1 : Float).toModel.unpack = .finite .positive (2 ^ 52) (-52) (by decide) := rfl
  have scaled : Proportions.Scaled (-2) ⟨0, 0, 1, 0, 0⟩ ⟨0, 0, 0.25, 0, 0⟩ :=
    ⟨.zero, .zero, .of_unpack one rfl, .zero, .zero⟩
  have agree := (Properties.agreeBut_refl proportionKeys oneInsert).set "insertproportion"
    (by decide) (.float 0.25)
  have inRange : Proportions.InRange ⟨0, 0, 1, 0, 0⟩ ⟨0, 0, 0.25, 0, 0⟩ :=
    ⟨by decide +kernel, by decide +kernel, by decide +kernel⟩
  rcases always oneInsert oneInsertQuartered workload _ _ (-2) accepted rfl agree rfl scaled
    inRange with ⟨after, acceptedToo⟩
  rw [ofProperties_oneInsertQuartered] at acceptedToo
  cases acceptedToo

end Workload
end StoreBench
