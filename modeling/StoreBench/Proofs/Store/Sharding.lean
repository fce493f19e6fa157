import StoreBench.Proofs.Store.Contents

namespace StoreBench

/-! Shards cannot be seen. Whatever the hash of the keys is and however many shards there are,
a store in shards and one in order that have been asked the same hold the same records. So they
answer alike, apart from scans. -/

section Exchanges

variable {ι S H : Type} [DecidableEq ι] [Backend S H]

def exchangeThrough : List (ι × Request) → S → (ι → H) → List Call
  | [], _, _ => []
  | (name, request) :: rest, store, handles =>
      let (answer, store, handle) := Backend.answer request store (handles name)
      .exchange request answer :: exchangeThrough rest store (Function.update handles name handle)

def exchangeAll (requests : List (ι × Request)) (store : S) : List Call :=
  exchangeThrough requests store fun _ => Backend.openHandle store

end Exchanges

def Call.isScan : Call → Bool
  | .exchange (.scan ..) _ => true
  | _ => false

namespace Sharded

theorem contents_make (hash : String → UInt64) (count : Nat) (positive : 0 < count) :
    (make hash count positive).contents = fun _ _ => none := by
  funext table key
  simp [contents, shard, make, Tables.contents, Tables.record?]

theorem exchangeThrough_eq {ι : Type} [DecidableEq ι] {sharded : Sharded} {tables : Tables}
    (alike : sharded.contents = tables.contents) (requests : List (ι × Request))
    (handles others : ι → Unit) :
    (exchangeThrough requests (Store.sharded sharded) handles).filter (!·.isScan) =
      (exchangeThrough requests (Store.ordered tables) others).filter (!·.isScan) := by
  induction requests generalizing sharded tables handles others with
  | nil => rfl
  | cons entry rest induction =>
      rcases entry with ⟨name, request⟩
      cases target : request.target? with
      | none =>
          -- A scan changes neither of the stores, and its answer is left out.
          cases request with
          | scan table start count fields => exact induction alike _ _
          | read | update | insert | delete => cases target
      | some place =>
          have answers : (sharded.answer request).1 = (tables.answer request).1 := by
            rw [answer_eq_reply target, Tables.answer_eq_reply target, alike]
          have after : (sharded.answer request).2.contents =
              (tables.answer request).2.contents := by
            rw [contents_answer target, Tables.contents_answer target, alike]
          have same := induction after (Function.update handles name ())
            (Function.update others name ())
          simp only [exchangeThrough, Backend.answer, Store.answer, answers, List.filter_cons]
          rw [same]

/-- From empty stores on, requests through any handles are answered alike by shards and by
tables in order, apart from scans. The fields of a whole record come in the order of their
names from both. -/
theorem exchangeAll_eq_ordered {ι : Type} [DecidableEq ι] (hash : String → UInt64) (count : Nat)
    (positive : 0 < count) (requests : List (ι × Request)) :
    (exchangeAll requests (Store.sharded (make hash count positive))).filter (!·.isScan) =
      (exchangeAll requests (Store.ordered ∅)).filter (!·.isScan) := by
  apply exchangeThrough_eq
  rw [contents_make]
  funext table key
  simp [Tables.contents, Tables.record?]

def twoHandles : List (Bool × Request) :=
  [(false, .insert "t" "a" [("f", "1"), ("g", "2"), ("f", "3")]),
    (true, .insert "t" "b" [("f", "4")]), (true, .update "t" "a" [("g", "5")]),
    (false, .scan "t" "a" 2 []), (false, .read "t" "a" []), (true, .delete "t" "a"),
    (false, .update "t" "a" [("g", "6")]), (true, .read "t" "b" ["g", "f"])]

theorem exchangeAll_eq_ordered_twoHandles :
    ∃ positive : 0 < 3, (exchangeAll twoHandles
      (Store.sharded (make hashText 3 positive))).filter (!·.isScan) =
        [.exchange (.insert "t" "a" [("f", "1"), ("g", "2"), ("f", "3")]) ⟨.ok, []⟩,
          .exchange (.insert "t" "b" [("f", "4")]) ⟨.ok, []⟩,
          .exchange (.update "t" "a" [("g", "5")]) ⟨.ok, []⟩,
          .exchange (.read "t" "a" []) ⟨.ok, [[("f", "3"), ("g", "5")]]⟩,
          .exchange (.delete "t" "a") ⟨.ok, []⟩,
          .exchange (.update "t" "a" [("g", "6")]) ⟨.notFound, []⟩,
          .exchange (.read "t" "b" ["g", "f"]) ⟨.ok, [[("f", "4")]]⟩] := by
  have positive : 0 < 3 := by decide
  refine ⟨positive, (exchangeAll_eq_ordered hashText 3 positive twoHandles).trans ?_⟩
  decide +kernel

end Sharded
end StoreBench
