import StoreBench.Proofs.Store.Sharding

namespace StoreBench

/-! The store in order as a plain map. A record is what its fields are mapped to, a store is
which record is under which table and key, and a call is described by what it does to the one
record that it is about. The tables of the store, the order of keys and the handles through
which it is called play no part in this. -/

abbrev PlainRecord := String → Option String

/-- The value that a list of fields gives to a name: of several, the last. -/
def Record.lastValue? (values : Record) : PlainRecord := fun name =>
  values.reverse.lookup name

abbrev PlainMap := String → String → Option PlainRecord

structure PlainRecord.Lists (fields : PlainRecord) (pairs : Record) : Prop where
  distinct : pairs.Nodup
  mem_iff : ∀ name value, (name, value) ∈ pairs ↔ fields name = some value

/-- What a call does that finds a record or none: its outcome, the fields that it appends to a
result, and what is there afterwards. -/
inductive Request.Meets :
    Request → Option PlainRecord → Status → Record → Option PlainRecord → Prop where
  | readAll {table key : String} {fields : PlainRecord} {pairs : Record}
      (listed : fields.Lists pairs) :
      Meets (.read table key []) (some fields) .ok pairs (some fields)
  | readSome {table key : String} {fields : PlainRecord} {wanted : List String}
      (named : wanted ≠ []) :
      Meets (.read table key wanted) (some fields) .ok
        (wanted.filterMap fun name => (fields name).map fun value => (name, value)) (some fields)
  | readMissing {table key : String} {wanted : List String} :
      Meets (.read table key wanted) none .notFound [] none
  | insert {table key : String} {values : Record} (found? : Option PlainRecord) :
      Meets (.insert table key values) found? .ok [] (some values.lastValue?)
  | update {table key : String} {values : Record} {fields : PlainRecord} :
      Meets (.update table key values) (some fields) .ok []
        (some fun name => (values.lastValue? name).or (fields name))
  | updateMissing {table key : String} {values : Record} :
      Meets (.update table key values) none .notFound [] none
  | delete {table key : String} {fields : PlainRecord} :
      Meets (.delete table key) (some fields) .ok [] none
  | deleteMissing {table key : String} : Meets (.delete table key) none .notFound [] none

namespace PlainMap

def empty : PlainMap := fun _ _ => none

structure Exchange (before : PlainMap) (request : Request) (answer : Answer)
    (after : PlainMap) : Prop where
  target : ∀ table key, request.target? = some (table, key) → ∃ appended,
    request.Meets (before table key) answer.status appended (after table key) ∧
      ∀ result, answer.appendTo result = result ++ appended
  others : ∀ table key, request.target? ≠ some (table, key) →
    after table key = before table key

inductive Run : PlainMap → List Call → PlainMap → Prop where
  | nil (contents : PlainMap) : Run contents [] contents
  | cons {before middle after : PlainMap} {request : Request} {answer : Answer}
      {calls : List Call} (first : Exchange before request answer middle)
      (rest : Run middle calls after) :
      Run before (.exchange request answer :: calls) after

end PlainMap

/-! ## Records -/

namespace Fields

def plain (fields : Fields) : PlainRecord := fun name => fields[name]?

theorem plain_overwrite (fields : Fields) (values : Record) (name : String) :
    (fields.overwrite values).plain name = (values.lastValue? name).or (fields.plain name) := by
  induction values generalizing fields with
  | nil => simp [overwrite, Record.lastValue?]
  | cons field rest induction =>
      rcases field with ⟨other, value⟩
      have inserted : plain (fields.insert other value) name =
          (List.lookup name [(other, value)]).or (fields.plain name) := by
        by_cases same : other = name
        · simp [plain, same]
        · have different : (name == other) = false := by simp [Ne.symm same]
          simp [plain, same, different, Std.TreeMap.getElem?_insert, List.lookup_cons]
      rw [Record.lastValue?, List.reverse_cons, List.lookup_append, Option.or_assoc, ← inserted]
      exact induction _

theorem plain_ofRecord (values : Record) : (ofRecord values).plain = values.lastValue? := by
  funext name
  rw [ofRecord, plain_overwrite, show (∅ : Fields).plain name = none from
    Std.TreeMap.getElem?_emptyc, Option.or_none]

theorem lists_toList (fields : Fields) : fields.plain.Lists fields.toList where
  distinct := by
    refine Std.TreeMap.distinct_keys_toList.imp ?_
    rintro left right different rfl
    exact different Std.ReflCmp.compare_self
  mem_iff _ _ := Std.TreeMap.mem_toList_iff_getElem?_eq_some

end Fields

/-! ## Calls -/

theorem Request.meets_reply {request : Request} (single : request.target?.isSome)
    (found? : Option Fields) :
    request.Meets (found?.map Fields.plain) (request.reply found?).status
      (request.reply found?).records.flatten ((request.revise found?).map Fields.plain) := by
  cases request with
  | scan => cases single
  | read table key wanted =>
      cases found? with
      | none => exact .readMissing
      | some fields =>
          simp only [reply, revise, List.flatten_singleton, Option.map_some]
          cases wanted with
          | nil => exact .readAll fields.lists_toList
          | cons name rest => exact .readSome (List.cons_ne_nil name rest)
  | insert table key values =>
      simp only [reply, revise, Answer.only, Option.map_some, Fields.plain_ofRecord]
      exact .insert _
  | update table key values =>
      cases found? with
      | none => exact .updateMissing
      | some fields =>
          have overridden : (fields.overwrite values).plain =
              fun name => (values.lastValue? name).or (fields.plain name) :=
            funext (fields.plain_overwrite values)
          simp only [reply, revise, Answer.only, Option.map_some, overridden]
          exact .update
  | delete table key =>
      cases found? with
      | none => exact .deleteMissing
      | some fields => exact .delete

namespace Tables

variable {tables : Tables} {request : Request}

def plain (tables : Tables) : PlainMap := fun table key =>
  (tables.contents table key).map Fields.plain

theorem plain_empty : (∅ : Tables).plain = PlainMap.empty := by
  funext table key
  simp [plain, contents, record?, PlainMap.empty]

theorem answer_of_untargeted (untargeted : request.target? = none) :
    (tables.answer request).2 = tables := by
  cases request with
  | scan => rfl
  | read | update | insert | delete => cases untargeted

theorem exchange_plain (tables : Tables) (request : Request) :
    tables.plain.Exchange request (tables.answer request).1 (tables.answer request).2.plain where
  target table key target := by
    have after : (tables.answer request).2.contents table key =
        request.revise (tables.contents table key) := by
      rw [contents_answer target, Contents.set, if_pos ⟨rfl, rfl⟩]
    rw [plain, plain, after, answer_eq_reply target]
    exact ⟨_, Request.meets_reply (by simp [target]) _, fun _ => rfl⟩
  others table key different := by
    cases target : request.target? with
    | none => rw [answer_of_untargeted target]
    | some place =>
        have apart : ¬(table = place.1 ∧ key = place.2) := by
          rintro ⟨rfl, rfl⟩
          exact different target
        rw [plain, plain, contents_answer target, Contents.set, if_neg apart]

theorem answer_of_notFound (missing : (tables.answer request).1.status = .notFound) :
    (tables.answer request).2 = tables ∧ (tables.answer request).1.records = [] := by
  cases request with
  | read table key wanted =>
      cases found : tables.record? table key <;> simp_all [answer, read, Answer.only]
  | scan table start count wanted =>
      cases found : tables[table]? <;> simp_all [answer, scan, Answer.only]
  | update table key values =>
      cases found : tables.record? table key <;> simp_all [answer, update, Answer.only]
  | insert table key values => cases missing
  | delete table key =>
      cases found : tables.record? table key <;> simp_all [answer, delete, Answer.only]

theorem getElem?_answer {other : String}
    (apart : ∀ key, request.target? ≠ some (other, key)) :
    (tables.answer request).2[other]? = tables[other]? := by
  have put (table key : String) (fields : Fields) (different : table ≠ other) :
      (tables.put table key fields)[other]? = tables[other]? := by
    simp [Tables.put, Std.TreeMap.getElem?_insert, different]
  cases request with
  | read | scan => rfl
  | insert table key values =>
      exact put table key _ fun same => apart key (same ▸ rfl)
  | update table key values =>
      cases found : tables.record? table key <;> simp only [answer, update, found]
      exact put table key _ fun same => apart key (same ▸ rfl)
  | delete table key =>
      have different : table ≠ other := fun same => apart key (same ▸ rfl)
      cases found : tables.record? table key <;> simp only [answer, delete, found]
      unfold remove
      split
      · simp [Std.TreeMap.getElem?_insert, different]
      · rfl

end Tables

/-! ## Calls through handles -/

section Handles

variable {ι S H : Type} [DecidableEq ι] [Backend S H]

def leftBy : List (ι × Request) → S → (ι → H) → S × (ι → H)
  | [], store, handles => (store, handles)
  | (name, request) :: rest, store, handles =>
      let (_, store, handle) := Backend.answer request store (handles name)
      leftBy rest store (Function.update handles name handle)

end Handles

theorem Tables.run_plain {ι : Type} [DecidableEq ι] (requests : List (ι × Request))
    (tables : Tables) (handles : ι → Unit) :
    ∃ last after, leftBy requests (Store.ordered tables) handles = (.ordered last, after) ∧
      tables.plain.Run (exchangeThrough requests (Store.ordered tables) handles) last.plain := by
  induction requests generalizing tables handles with
  | nil => exact ⟨tables, handles, rfl, .nil _⟩
  | cons entry rest induction =>
      rcases entry with ⟨name, request⟩
      rcases induction (tables.answer request).2 (Function.update handles name ()) with
        ⟨last, after, left, run⟩
      exact ⟨last, after, left, .cons (tables.exchange_plain request) run⟩

/-- From an empty store on, all calls through any handles have been answered as a plain map
would, and so is the next one. If it finds nothing, it changes neither the store nor the
result, and it leaves alone all tables that it is not about. -/
theorem Store.answers_as_plain_map {ι : Type} [DecidableEq ι] (past : List (ι × Request))
    (name : ι) (request : Request) :
    ∃ tables handles answer next,
      leftBy past (Store.ordered ∅) (fun _ => Backend.openHandle (Store.ordered ∅)) =
        (.ordered tables, handles) ∧
      Backend.answer request (Store.ordered tables) (handles name) =
        (answer, .ordered next, ()) ∧
      PlainMap.empty.Run (exchangeAll past (Store.ordered ∅)) tables.plain ∧
      tables.plain.Exchange request answer next.plain ∧
      (answer.status = .notFound →
        next = tables ∧ ∀ result, answer.appendTo result = result) ∧
      ∀ other, (∀ key, request.target? ≠ some (other, key)) → next[other]? = tables[other]? := by
  rcases Tables.run_plain past ∅ fun _ => Backend.openHandle (Store.ordered ∅) with
    ⟨tables, handles, left, run⟩
  rw [Tables.plain_empty] at run
  refine ⟨tables, handles, (tables.answer request).1, (tables.answer request).2, left, rfl, run,
    tables.exchange_plain request, ?_, ?_⟩
  · intro missing
    rcases Tables.answer_of_notFound missing with ⟨same, none⟩
    refine ⟨same, fun result => ?_⟩
    rw [Answer.appendTo, none, List.flatten_nil, List.append_nil]
  · exact fun other => Tables.getElem?_answer

end StoreBench
