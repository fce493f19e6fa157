import Mathlib.Data.List.Forall2
import StoreBench.Proofs.Store.Filled
import StoreBench.Proofs.Store.PlainMap
import StoreBench.Proofs.Text.ByteOrder

namespace StoreBench

/-! Scans. Whatever was asked of a store in order before, a scan shows the records from its start
on in the order of the bytes of their keys, up to as many as it asks for. So a long scan is a
short one and another that goes on where it stopped. -/

namespace PlainMap

/-- The keys of a table from a start on, in the order of their bytes. -/
structure KeysFrom (contents : PlainMap) (table start : String) (keys : List String) : Prop where
  ordered : keys.Pairwise fun key later => bytesOf key < bytesOf later
  mem_iff : ∀ key, key ∈ keys ↔ bytesOf start ≤ bytesOf key ∧ (contents table key).isSome

def Shows (contents : PlainMap) (table : String) (wanted : List String) (key : String)
    (record : Record) : Prop :=
  (Request.read table key wanted).Meets (contents table key) .ok record (contents table key)

structure Follows (contents : PlainMap) (table last next : String) : Prop where
  stored : (contents table next).isSome
  above : bytesOf last < bytesOf next
  least : ∀ key, (contents table key).isSome → bytesOf last < bytesOf key →
    bytesOf next ≤ bytesOf key

end PlainMap

/-! ## Sorted lists -/

theorem dropWhile_eq_filter {α : Type} {before : α → α → Prop} {early : α → Bool}
    {items : List α} (sorted : items.Pairwise before)
    (stays : ∀ item later, before item later → early item = false → early later = false) :
    items.dropWhile early = items.filter (!early ·) := by
  induction items with
  | nil => rfl
  | cons item rest induction =>
      rcases List.pairwise_cons.mp sorted with ⟨first, sorted⟩
      cases is : early item with
      | true => simp [is, induction sorted]
      | false =>
          have kept : rest.filter (!early ·) = rest :=
            List.filter_eq_self.mpr fun later member => by
              simp [stays item later (first later member) is]
          simp [is, kept]

theorem filter_above_of_sorted {α : Type} {before after : List (String × α)} {entry : String × α}
    (sorted : (before ++ entry :: after).Pairwise fun entry later => entry.1 < later.1) :
    (before ++ entry :: after).filter (fun other => entry.1 < other.1) = after := by
  rcases List.pairwise_append.mp sorted with ⟨_, others, earlier⟩
  have none : before.filter (fun other => entry.1 < other.1) = [] := by
    apply List.filter_eq_nil_iff.mpr
    intro other member
    rw [decide_eq_true_eq, not_lt]
    exact le_of_lt (earlier other member entry List.mem_cons_self)
  have itself : ¬decide (entry.1 < entry.1) = true := by
    rw [decide_eq_true_eq]
    exact lt_irrefl entry.1
  have all : after.filter (fun other => entry.1 < other.1) = after :=
    List.filter_eq_self.mpr fun other member =>
      decide_eq_true ((List.pairwise_cons.mp others).1 other member)
  rw [List.filter_append, none, List.nil_append, List.filter_cons, if_neg itself, all]

/-! ## Records from a key on -/

namespace Tables

section Records

variable {records : Std.TreeMap String Fields} {start last next : String}

theorem sorted_toList (records : Std.TreeMap String Fields) :
    records.toList.Pairwise fun entry later => entry.1 < later.1 :=
  Std.TreeMap.ordered_keys_toList.imp compare_lt_iff_lt.mp

theorem recordsFrom_eq_filter (records : Std.TreeMap String Fields) (start : String) :
    recordsFrom records start = records.toList.filter fun entry => start ≤ entry.1 := by
  rw [recordsFrom, dropWhile_eq_filter (sorted_toList records)]
  · simp only [← decide_not, not_lt]
  · intro entry later before
    simp only [decide_eq_false_iff_not, not_lt]
    exact fun late => le_trans late (le_of_lt before)

theorem sorted_recordsFrom (records : Std.TreeMap String Fields) (start : String) :
    (recordsFrom records start).Pairwise fun entry later => entry.1 < later.1 := by
  rw [recordsFrom_eq_filter]
  exact (sorted_toList records).filter _

theorem mem_recordsFrom {entry : String × Fields} :
    entry ∈ recordsFrom records start ↔ start ≤ entry.1 ∧ records[entry.1]? = some entry.2 := by
  rw [recordsFrom_eq_filter, List.mem_filter, Std.TreeMap.mem_toList_iff_getElem?_eq_some,
    decide_eq_true_eq, and_comm]

theorem drop_recordsFrom {position : Nat} {fields : Fields}
    (here : (recordsFrom records start)[position]? = some (last, fields)) :
    (recordsFrom records start).drop (position + 1) =
      records.toList.filter fun entry => last < entry.1 := by
  rcases List.getElem?_eq_some_iff.mp here with ⟨inside, entry⟩
  have parts := List.take_append_drop position (recordsFrom records start)
  rw [List.drop_eq_getElem_cons inside, entry] at parts
  have begins : start ≤ last := (mem_recordsFrom.mp (List.mem_of_getElem? here)).1
  have sorted := sorted_recordsFrom records start
  rw [← parts] at sorted
  -- All entries above the last key are also from the start on.
  have whole : (records.toList.filter fun entry => last < entry.1) =
      (recordsFrom records start).filter fun entry => last < entry.1 := by
    rw [recordsFrom_eq_filter, List.filter_filter]
    apply List.filter_congr
    intro entry _
    by_cases above : last < entry.1
    · rw [decide_eq_true above, decide_eq_true (le_trans begins (le_of_lt above))]
      rfl
    · rw [decide_eq_false above, Bool.false_and]
  have above := filter_above_of_sorted sorted
  rw [parts] at above
  rw [whole]
  exact above.symm

theorem filter_above_eq_recordsFrom (above : last < next)
    (least : ∀ key ∈ records, last < key → next ≤ key) :
    (records.toList.filter fun entry => last < entry.1) = recordsFrom records next := by
  rw [recordsFrom_eq_filter]
  apply List.filter_congr
  intro entry member
  have found := Std.TreeMap.mem_toList_iff_getElem?_eq_some.mp member
  have stored : entry.1 ∈ records := Std.TreeMap.mem_iff_isSome_getElem?.mpr (by simp [found])
  rw [decide_eq_decide]
  exact ⟨least entry.1 stored, lt_of_lt_of_le above⟩

end Records

/-! ## Tables that were inserted into -/

section Inserted

variable {tables : Tables} {request : Request} {table : String}

theorem isSome_put (key : String) (fields : Fields) (other : String) :
    (tables.put table key fields)[other]?.isSome ↔ other = table ∨ tables[other]?.isSome := by
  by_cases same : table = other
  · simp [put, same]
  · simp [put, Std.TreeMap.getElem?_insert, same, Ne.symm same]

theorem isSome_answer : (tables.answer request).2[table]?.isSome ↔
    tables[table]?.isSome ∨ ∃ key values, .insert table key values = request := by
  cases request with
  | read | scan => simp [answer]
  | insert other key values =>
      rw [answer, insert, isSome_put, or_comm]
      simp
  | update other key values =>
      cases found : tables.record? other key with
      | none => simp [answer, update, found]
      | some fields =>
          rcases Has.exists_table (Option.isSome_of_eq_some found) with ⟨records, present⟩
          simp only [answer, update, found, isSome_put, reduceCtorEq, exists_false, or_false,
            or_iff_right_iff_imp]
          rintro rfl
          exact Option.isSome_of_eq_some present
  | delete other key =>
      cases found : tables.record? other key with
      | none => simp [answer, delete, found]
      | some fields =>
          rcases Has.exists_table (Option.isSome_of_eq_some found) with ⟨records, present⟩
          by_cases same : other = table
          · subst same
            simp [answer, delete, found, remove, present]
          · simp [answer, delete, found, remove, present, Std.TreeMap.getElem?_insert, same]

theorem isSome_after (requests : List Request) (tables : Tables) :
    (after requests tables)[table]?.isSome ↔
      tables[table]?.isSome ∨ ∃ key values, .insert table key values ∈ requests := by
  induction requests generalizing tables with
  | nil => simp [after]
  | cons request rest induction =>
      rw [show after (request :: rest) tables = after rest (tables.answer request).2 from rfl,
        induction, isSome_answer]
      simp only [List.mem_cons, exists_or, or_assoc]

theorem leftBy_ordered {ι : Type} [DecidableEq ι] (requests : List (ι × Request))
    (tables : Tables) (handles : ι → Unit) :
    leftBy requests (Store.ordered tables) handles =
      (.ordered (after (requests.map Prod.snd) tables), handles) := by
  induction requests generalizing tables handles with
  | nil => rfl
  | cons entry rest induction => exact induction (tables.answer entry.2).2 _

end Inserted

/-! ## Answers -/

section Answers

variable {tables : Tables} {table start last next : String} {wanted : List String}
  {first more : Nat}

theorem plain_eq_map (tables : Tables) (table key : String) :
    tables.plain table key = (tables.records table)[key]?.map Fields.plain := by
  rw [plain, getElem?_records]
  rfl

theorem isSome_plain {key : String} :
    (tables.plain table key).isSome ↔ key ∈ tables.records table := by
  rw [plain_eq_map, Option.isSome_map, Std.TreeMap.mem_iff_isSome_getElem?]

theorem scan_of_absent (absent : tables[table]? = none) (count : Nat) :
    tables.scan table start count wanted = .only .notFound := by
  rw [scan, absent]

theorem scan_of_present (present : tables[table]?.isSome) (count : Nat) :
    tables.scan table start count wanted =
      ⟨.ok, ((recordsFrom (tables.records table) start).take count).map fun entry =>
        entry.2.project wanted⟩ := by
  rcases Option.isSome_iff_exists.mp present with ⟨records, found⟩
  rw [scan, Tables.records, found]
  rfl

theorem keysFrom_records (tables : Tables) (table start : String) :
    tables.plain.KeysFrom table start
      ((recordsFrom (tables.records table) start).map Prod.fst) where
  ordered := List.pairwise_map.mpr ((sorted_recordsFrom _ _).imp bytesOf_lt_iff.mpr)
  mem_iff key := by
    rw [bytesOf_le_iff, isSome_plain, Std.TreeMap.mem_iff_isSome_getElem?,
      Option.isSome_iff_exists, ← exists_and_left, List.mem_map]
    constructor
    · rintro ⟨⟨_, fields⟩, member, rfl⟩
      exact ⟨fields, mem_recordsFrom.mp member⟩
    · rintro ⟨fields, found⟩
      exact ⟨(key, fields), mem_recordsFrom.mpr found, rfl⟩

theorem shows_of_mem {entry : String × Fields}
    (member : entry ∈ recordsFrom (tables.records table) start) :
    tables.plain.Shows table wanted entry.1 (entry.2.project wanted) := by
  have found := (mem_recordsFrom.mp member).2
  have single : (Request.read table entry.1 wanted).target?.isSome := rfl
  have meets := Request.meets_reply single (some entry.2)
  unfold PlainMap.Shows
  rw [plain_eq_map, found]
  simpa only [Request.reply, Request.revise, List.flatten_singleton] using meets

theorem shows_scan (tables : Tables) (table start : String) (wanted : List String)
    (count : Nat) :
    List.Forall₂ (tables.plain.Shows table wanted)
      (((recordsFrom (tables.records table) start).map Prod.fst).take count)
      (((recordsFrom (tables.records table) start).take count).map fun entry =>
        entry.2.project wanted) := by
  rw [← List.map_take, List.forall₂_map_left_iff, List.forall₂_map_right_iff, List.forall₂_same]
  exact fun entry member => shows_of_mem (List.mem_of_mem_take member)

theorem scan_add_of_short
    (short : (tables.scan table start first wanted).records.length < first) :
    tables.scan table start (first + more) wanted = tables.scan table start first wanted := by
  cases present : tables[table]? with
  | none => rw [scan_of_absent present, scan_of_absent present]
  | some =>
      have present := Option.isSome_of_eq_some present
      rw [scan_of_present present] at short
      simp only [List.length_map, List.length_take] at short
      rw [scan_of_present present, scan_of_present present, List.take_of_length_le (by omega),
        List.take_of_length_le (by omega)]

/-- A full scan stops at a key, and what a longer one shows has greater keys. -/
theorem scan_add (present : tables[table]?.isSome) (positive : 1 ≤ first)
    (full : (tables.scan table start first wanted).records.length = first) (more : Nat) :
    ∃ last, ((recordsFrom (tables.records table) start).map Prod.fst)[first - 1]? = some last ∧
      tables.scan table start (first + more) wanted =
        ⟨.ok, (tables.scan table start first wanted).records ++
          (((tables.records table).toList.filter fun entry => last < entry.1).take more).map
            fun entry => entry.2.project wanted⟩ := by
  rw [scan_of_present present] at full
  simp only [List.length_map, List.length_take] at full
  have inside : first - 1 < (recordsFrom (tables.records table) start).length := by omega
  have here := List.getElem?_eq_getElem inside
  have rest := drop_recordsFrom here
  rw [Nat.sub_add_cancel positive] at rest
  refine ⟨(recordsFrom (tables.records table) start)[first - 1].1, ?_, ?_⟩
  · rw [List.getElem?_map, here, Option.map_some]
  · rw [scan_of_present present, scan_of_present present, List.take_add, rest, List.map_append]
    rfl

theorem filter_above_of_follows (follows : tables.plain.Follows table last next) :
    ((tables.records table).toList.filter fun entry => last < entry.1) =
      recordsFrom (tables.records table) next := by
  apply filter_above_eq_recordsFrom (bytesOf_lt_iff.mp follows.above)
  intro key stored above
  exact bytesOf_le_iff.mp (follows.least key (isSome_plain.mpr stored) (bytesOf_lt_iff.mpr above))

theorem filter_above_of_not_follows (ends : ∀ next, ¬tables.plain.Follows table last next) :
    ((tables.records table).toList.filter fun entry => last < entry.1) = [] := by
  cases above : (tables.records table).toList.filter fun entry => last < entry.1 with
  | nil => rfl
  | cons entry rest =>
      have mem_iff (other : String × Fields) : other ∈ entry :: rest ↔
          (tables.records table)[other.1]? = some other.2 ∧ last < other.1 := by
        rw [← above, List.mem_filter, Std.TreeMap.mem_toList_iff_getElem?_eq_some,
          decide_eq_true_eq]
      have sorted := (sorted_toList (tables.records table)).filter fun entry => last < entry.1
      rw [above] at sorted
      rcases (mem_iff entry).mp List.mem_cons_self with ⟨found, greater⟩
      refine absurd ⟨?_, bytesOf_lt_iff.mpr greater, ?_⟩ (ends entry.1)
      · rw [plain_eq_map, found]
        rfl
      · intro key stored later
        rw [plain_eq_map, Option.isSome_map, Option.isSome_iff_exists] at stored
        rcases stored with ⟨fields, stored⟩
        rw [bytesOf_le_iff]
        rcases List.mem_cons.mp ((mem_iff (key, fields)).mpr ⟨stored, bytesOf_lt_iff.mp later⟩) with
          same | member
        · exact le_of_eq (congrArg Prod.fst same).symm
        · exact le_of_lt ((List.pairwise_cons.mp sorted).1 _ member)

end Answers

end Tables

/-- From an empty store on, whatever was asked through any handles, a scan finds its table if a
record was ever inserted into it. Then it shows the first of the records from its start on, as
many as it asks for, in the order of the bytes of their keys. So a scan for more records is a
shorter one and, if that finds as many as it asks for, another one for the rest from the next key
on. -/
theorem Store.scans_in_order {ι : Type} [DecidableEq ι] (past : List (ι × Request)) (name : ι)
    (table start : String) (wanted : List String) :
    ∃ tables handles,
      leftBy past (Store.ordered ∅) (fun _ => Backend.openHandle (Store.ordered ∅)) =
        (.ordered tables, handles) ∧
      PlainMap.empty.Run (exchangeAll past (Store.ordered ∅)) tables.plain ∧
      (∀ start count, Backend.answer (.scan table start count wanted) (Store.ordered tables)
        (handles name) = (tables.scan table start count wanted, .ordered tables, ())) ∧
      ((∀ key values maker, (maker, .insert table key values) ∉ past) → ∀ count,
        (tables.scan table start count wanted).status = .notFound ∧
        ∀ result, (tables.scan table start count wanted).appendAllTo result = result) ∧
      ((∃ key values maker, (maker, .insert table key values) ∈ past) →
        ∃ keys, tables.plain.KeysFrom table start keys ∧
          (∀ count, (tables.scan table start count wanted).status = .ok ∧ ∃ shown,
            List.Forall₂ (tables.plain.Shows table wanted) (keys.take count) shown ∧
            ∀ result, (tables.scan table start count wanted).appendAllTo result =
              result ++ shown) ∧
          ∀ first more,
            ((tables.scan table start first wanted).records.length < first →
              tables.scan table start (first + more) wanted =
                tables.scan table start first wanted) ∧
            (1 ≤ first → (tables.scan table start first wanted).records.length = first →
              ∃ last, keys[first - 1]? = some last ∧
                (∀ next, tables.plain.Follows table last next → ∀ result,
                  (tables.scan table start (first + more) wanted).appendAllTo result =
                    (tables.scan table next more wanted).appendAllTo
                      ((tables.scan table start first wanted).appendAllTo result)) ∧
                ((∀ next, ¬tables.plain.Follows table last next) →
                  tables.scan table start (first + more) wanted =
                    tables.scan table start first wanted))) := by
  rcases Tables.run_plain past ∅ fun _ => Backend.openHandle (Store.ordered ∅) with
    ⟨tables, handles, left, run⟩
  rw [Tables.plain_empty] at run
  have inserted : tables[table]?.isSome ↔
      ∃ key values maker, (maker, .insert table key values) ∈ past := by
    rw [Tables.leftBy_ordered, Prod.mk.injEq, Store.ordered.injEq] at left
    rw [← left.1, Tables.isSome_after]
    simp
  refine ⟨tables, handles, left, run, fun _ _ => rfl, ?_, ?_⟩
  · intro never count
    have absent : tables[table]? = none := by
      rw [← Option.not_isSome_iff_eq_none, inserted]
      exact fun ⟨key, values, maker, member⟩ => never key values maker member
    rw [Tables.scan_of_absent absent]
    exact ⟨rfl, List.append_nil⟩
  · intro ever
    have present := inserted.mpr ever
    refine ⟨_, tables.keysFrom_records table start, ?_, ?_⟩
    · intro count
      rw [Tables.scan_of_present present]
      exact ⟨rfl, _, tables.shows_scan table start wanted count, fun _ => rfl⟩
    · intro first more
      refine ⟨Tables.scan_add_of_short, fun positive full => ?_⟩
      rcases Tables.scan_add present positive full more with ⟨last, stopped, longer⟩
      refine ⟨last, stopped, ?_, ?_⟩
      · intro next follows result
        rw [longer, Tables.filter_above_of_follows follows, Tables.scan_of_present present,
          Tables.scan_of_present present]
        exact (List.append_assoc ..).symm
      · intro ends
        rw [longer, Tables.filter_above_of_not_follows ends, List.take_nil, List.map_nil,
          List.append_nil, Tables.scan_of_present present]

def mixedKeys : List (Bool × Request) :=
  [(false, .insert "t" "é" [("f", "1")]), (true, .insert "t" "b" [("g", "2")]),
    (true, .insert "t" "a" [("f", "3")]), (false, .insert "t" "c" []), (true, .delete "t" "c")]

theorem Store.scans_in_order_mixedKeys :
    ∃ tables handles,
      leftBy mixedKeys (Store.ordered ∅) (fun _ => Backend.openHandle (Store.ordered ∅)) =
        (.ordered tables, handles) ∧
      (tables.scan "u" "a" 2 ["f"]).status = .notFound ∧
      (∃ keys, tables.plain.KeysFrom "t" "aa" keys ∧
        (tables.scan "t" "aa" 2 ["f"]).records = [[], [("f", "1")]] ∧
        ∃ last, keys[0]? = some last ∧ ∀ next, tables.plain.Follows "t" last next →
          ∀ result, (tables.scan "t" "aa" 2 ["f"]).appendAllTo result =
            (tables.scan "t" next 1 ["f"]).appendAllTo
              ((tables.scan "t" "aa" 1 ["f"]).appendAllTo result)) := by
  rcases Store.scans_in_order mixedKeys true "u" "a" ["f"] with
    ⟨tables, handles, left, _, _, never, _⟩
  rcases Store.scans_in_order mixedKeys true "t" "aa" ["f"] with
    ⟨others, _, again, _, _, _, ever⟩
  rw [left, Prod.mk.injEq, Store.ordered.injEq] at again
  rw [← again.1] at ever
  rw [Tables.leftBy_ordered, Prod.mk.injEq, Store.ordered.injEq] at left
  have shown : (tables.scan "t" "aa" 2 ["f"]).records = [[], [("f", "1")]] := by
    rw [← left.1]
    decide +kernel
  have one : (tables.scan "t" "aa" 1 ["f"]).records.length = 1 := by
    rw [← left.1]
    decide +kernel
  refine ⟨tables, handles, by rw [Tables.leftBy_ordered, left.1, left.2], (never ?_ 2).1, ?_⟩
  · simp [mixedKeys]
  · rcases ever ⟨"a", [("f", "3")], true, by decide⟩ with ⟨keys, keysFrom, _, longer⟩
    rcases (longer 1 1).2 (by decide) one with ⟨last, stopped, follows, _⟩
    exact ⟨keys, keysFrom, shown, last, stopped, follows⟩

end StoreBench
