import StoreBench.Proofs.Interleaving.Dispensed

namespace StoreBench

/-! Which insert gets which number. The inserts of a run stand at places of its history. Up to the
largest word there is exactly one place for each number, and the inserts are handed their numbers
in the order of these places. -/

section Places

variable {ι : Type} {history : List (Event ι)} {event : Event ι} {place other index : Nat}

def InsertAt (history : List (Event ι)) (place : Nat) : Prop :=
  ∃ event, history[place]? = some event ∧ event.isInsert

theorem InsertAt.inserts_take_lt (insertAt : InsertAt history place) (before : place < other) :
    inserts (history.take place) < inserts (history.take other) := by
  rcases insertAt with ⟨event, here, isInsert⟩
  have next : inserts (history.take (place + 1)) = inserts (history.take place) + 1 := by
    rw [List.take_add_one, here, Option.toList_some, inserts_concat, if_pos isInsert]
  have most : inserts (history.take (place + 1)) ≤ inserts (history.take other) :=
    (List.take_sublist_take_left before).countP_le
  omega

theorem InsertAt.eq_of_inserts_take (insertAt : InsertAt history place)
    (otherInsertAt : InsertAt history other)
    (same : inserts (history.take place) = inserts (history.take other)) : place = other := by
  rcases Nat.lt_trichotomy place other with less | equal | greater
  · exact absurd same (insertAt.inserts_take_lt less).ne
  · exact equal
  · exact absurd same.symm (otherInsertAt.inserts_take_lt greater).ne

theorem exists_insertAt (early : index < inserts history) :
    ∃ place, InsertAt history place ∧ inserts (history.take place) = index := by
  induction history using List.reverseRecOn with
  | nil => cases early
  | append_singleton history event induction =>
      -- Either the insert stands in the earlier part, or it is the last event.
      by_cases before : index < inserts history
      · rcases induction before with ⟨place, ⟨other, here, isInsert⟩, count⟩
        rcases List.getElem?_eq_some_iff.mp here with ⟨inside, _⟩
        refine ⟨place, ⟨other, ?_, isInsert⟩, ?_⟩
        · rwa [List.getElem?_append_left inside]
        · rwa [List.take_append_of_le_length (Nat.le_of_lt inside)]
      · cases isInsert : event.isInsert with
        | false =>
            rw [inserts_concat, isInsert] at early
            exact absurd early before
        | true =>
            rw [inserts_concat, isInsert, if_pos rfl] at early
            refine ⟨history.length, ⟨event, List.getElem?_concat_length, isInsert⟩, ?_⟩
            rw [List.take_left]
            omega

end Places

variable {ι σ S H : Type} [DecidableEq ι] [WordSource σ] [Backend S H]

structure HandedAt (first : Crew ι σ S H) (history : List (Event ι)) (number : UInt64)
    (place : Nat) : Prop where
  drew : ∃ name phase transaction values,
    history[place]? = some (.drew name phase transaction) ∧ transaction.operation = .insert ∧
      transaction.requests = [.insert first.world.workload.table
        (first.world.workload.keyName number) values]
  upcoming : ∃ before, Interleaving first (history.take place) before ∧ before.upcoming = number

/-- Every insert of a run is handed one number. The first so many inserts get the numbers from a
first one on, and each of these numbers goes to one insert. -/
structure DispensesFrom (first : Crew ι σ S H) (history : List (Event ι)) (start count : Nat) :
    Prop where
  handed : ∀ place, InsertAt history place → ∃! number, HandedAt first history number place
  within : ∀ place number, inserts (history.take place) < count →
    HandedAt first history number place → start ≤ number.toNat ∧ number.toNat < start + count
  once : ∀ number : UInt64, start ≤ number.toNat → number.toNat < start + count →
    ∃! place, inserts (history.take place) < count ∧ HandedAt first history number place

theorem Drawn.requests_of_insert {before after : Workload} {phase : Phase}
    {transaction : Transaction} (drawn : Drawn before phase transaction after)
    (isInsert : transaction.operation = .insert) :
    ∃ values, transaction.requests =
      [.insert before.table (before.keyName before.keySequence.upcoming) values] := by
  cases drawn with
  | load values same | insert values same => exact ⟨values, rfl⟩
  | read | update | scan | readModifyWrite => cases isInsert

namespace Interleaving

variable {first last : Crew ι σ S H} {history : List (Event ι)} {number : UInt64}
variable {place count : Nat}

theorem handedAt_iff (run : Interleaving first history last) :
    HandedAt first history number place ↔
      InsertAt history place ∧
        first.upcoming + .ofNat (inserts (history.take place)) = number := by
  constructor
  · intro handed
    rcases handed.drew with ⟨name, phase, transaction, values, here, isInsert, _⟩
    rcases handed.upcoming with ⟨before, earlier, rfl⟩
    exact ⟨⟨_, here, decide_eq_true isInsert⟩, earlier.upcoming_eq.symm⟩
  · rintro ⟨⟨event, here, isInsert⟩, same⟩
    rcases List.getElem?_eq_some_iff.mp here with ⟨inside, rfl⟩
    have split : history = history.take place ++ history[place] :: history.drop (place + 1) := by
      rw [List.getElem_cons_drop, List.take_append_drop]
    rw [split] at run
    rcases run.at_event with ⟨before, after, earlier, step⟩
    have upcoming : before.upcoming = number := earlier.upcoming_eq.trans same
    refine ⟨?_, before, earlier, upcoming⟩
    cases event : history[place] with
    | asked | settled => simp [event, Event.isInsert] at isInsert
    | drew name phase transaction =>
        rw [event] at step isInsert here
        have operation : transaction.operation = .insert := of_decide_eq_true isInsert
        rcases step.drawn.requests_of_insert operation with ⟨values, requests⟩
        refine ⟨name, phase, transaction, values, here, operation, ?_⟩
        rw [requests, earlier.toPlan_eq, ← upcoming]
        rfl

theorem dispensesFrom (run : Interleaving first history last)
    (early : count ≤ inserts history) (room : first.upcoming.toNat + count ≤ 2 ^ 64) :
    DispensesFrom first history first.upcoming.toNat count := by
  -- As there is room, the words do not start again from zero.
  have shown (index : Nat) (small : index < count) :
      (first.upcoming + .ofNat index).toNat = first.upcoming.toNat + index := by
    rw [UInt64.toNat_add, UInt64.toNat_ofNat']
    omega
  refine ⟨?_, ?_, ?_⟩
  · intro place insertAt
    refine ⟨_, run.handedAt_iff.mpr ⟨insertAt, rfl⟩, ?_⟩
    exact fun number handed => (run.handedAt_iff.mp handed).2.symm
  · intro place number small handed
    rw [← (run.handedAt_iff.mp handed).2, shown _ small]
    omega
  · intro number lower upper
    rcases exists_insertAt (show number.toNat - first.upcoming.toNat < inserts history by omega)
      with ⟨place, insertAt, position⟩
    refine ⟨place, ⟨by omega, run.handedAt_iff.mpr ⟨insertAt, ?_⟩⟩, ?_⟩
    · rw [← UInt64.toNat_inj, position, shown _ (by omega)]
      omega
    · rintro other ⟨small, handed⟩
      rcases run.handedAt_iff.mp handed with ⟨otherInsertAt, same⟩
      apply otherInsertAt.eq_of_inserts_take insertAt
      have numeric := congrArg UInt64.toNat same
      rw [shown _ small] at numeric
      omega

end Interleaving
end StoreBench
