import StoreBench.Proofs.Drawing.Ready
import StoreBench.Proofs.Drawing.Weights

namespace StoreBench.Weighted

/-! Weighted draws follow the sums of the weights. The total that is kept while values are
registered is what a draw has added up after the last of them: both add the same weights in the
same order to zero. So nothing is said here about rounding, infinities or what is no number. -/

variable {α : Type} {value : α} {target start : Float} {entries : List (α × Float)}

/-! ## The first sum that reaches a target -/

/-- The first of several sums that reaches a target has this index. -/
def ReachedAt (target : Float) (sums : List Float) (index : Nat) : Prop :=
  (∃ sum, sums[index]? = some sum ∧ target ≤ sum) ∧
    ∀ earlier < index, ∀ sum, sums[earlier]? = some sum → ¬target ≤ sum

theorem reachedAt_of_reached {sum : Float} {rest : List Float} {index : Nat}
    (reached : target ≤ sum) : ReachedAt target (sum :: rest) index ↔ index = 0 := by
  constructor
  · rintro ⟨_, before⟩
    apply Nat.eq_zero_of_not_pos
    intro positive
    exact before 0 positive sum rfl reached
  · rintro rfl
    exact ⟨⟨sum, rfl, reached⟩, nofun⟩

theorem reachedAt_of_not_reached {sum : Float} {rest : List Float} {index : Nat}
    (beyond : ¬target ≤ sum) :
    ReachedAt target (sum :: rest) index ↔
      ∃ later, index = later + 1 ∧ ReachedAt target rest later := by
  constructor
  · rintro ⟨⟨other, placed, reached⟩, before⟩
    cases index with
    | zero =>
        cases placed
        exact absurd reached beyond
    | succ later =>
        exact ⟨later, rfl, ⟨other, placed, reached⟩, fun earlier less =>
          before (earlier + 1) (Nat.succ_lt_succ less)⟩
  · rintro ⟨later, rfl, reached, before⟩
    refine ⟨reached, fun earlier less => ?_⟩
    cases earlier with
    | zero =>
        rintro _ ⟨⟩
        exact beyond
    | succ earlier => exact before earlier (Nat.lt_of_succ_lt_succ less)

theorem firstReaching_eq_some_iff :
    firstReaching target start entries = some value ↔
      ∃ index, ReachedAt target (sums start entries) index ∧
        (entries.map Prod.fst)[index]? = some value := by
  induction entries generalizing start with
  | nil => simp [firstReaching, sums, ReachedAt]
  | cons entry rest induction =>
      rcases entry with ⟨first, weight⟩
      rw [firstReaching, sums]
      split
      next reached => simp [reachedAt_of_reached reached]
      next beyond =>
        rw [induction]
        simp only [reachedAt_of_not_reached beyond]
        constructor
        · rintro ⟨index, reached, placed⟩
          exact ⟨index + 1, ⟨index, rfl, reached⟩, placed⟩
        · rintro ⟨_, ⟨index, rfl, reached⟩, placed⟩
          exact ⟨index, reached, placed⟩

theorem firstReaching_eq_none_iff :
    firstReaching target start entries = none ↔ ∀ sum ∈ sums start entries, ¬target ≤ sum := by
  induction entries generalizing start with
  | nil => simp [firstReaching, sums]
  | cons entry rest induction =>
      rcases entry with ⟨first, weight⟩
      rw [firstReaching, sums, List.forall_mem_cons]
      split
      next reached => simp [reached]
      next beyond => simp [beyond, induction]

/-! ## The sum after the last weight -/

theorem sums_append (start : Float) (entries others : List (α × Float)) :
    sums start (entries ++ others) =
      sums start entries ++ sums ((sums start entries).getLastD start) others := by
  induction entries generalizing start with
  | nil => rfl
  | cons entry rest induction =>
      rcases entry with ⟨first, weight⟩
      rw [List.cons_append, sums, sums, induction, List.cons_append, List.getLastD_cons]

theorem firstReaching_append {others : List (α × Float)}
    (beyond : ∀ sum ∈ sums start entries, ¬target ≤ sum) :
    firstReaching target start (entries ++ others) =
      firstReaching target ((sums start entries).getLastD start) others := by
  induction entries generalizing start with
  | nil => rfl
  | cons entry rest induction =>
      rcases entry with ⟨first, weight⟩
      rw [sums, List.forall_mem_cons] at beyond
      rw [List.cons_append, firstReaching, if_neg beyond.1, induction beyond.2, sums,
        List.getLastD_cons]

/-! ## Histories of registrations and draws -/

inductive After : List (α × Float) → Option α → Weighted α → Prop where
  | start : After [] none empty
  | add {entries : List (α × Float)} {last? : Option α} {weighted : Weighted α}
      (earlier : After entries last? weighted) (value : α) (weight : Float) :
      After (entries ++ [(value, weight)]) last? (weighted.add value weight)
  | draw {entries : List (α × Float)} {last? : Option α} {weighted after : Weighted α} {value : α}
      {σ : Type} [WordSource σ] {source rest : σ} (earlier : After entries last? weighted)
      (drawn : weighted.draw source = .ok (value, after, rest)) :
      After entries (some value) after

namespace After

variable {last? : Option α} {weighted : Weighted α}

theorem entries_eq (history : After entries last? weighted) : weighted.entries = entries := by
  induction history with
  | start => rfl
  | add earlier value weight induction =>
      show _ ++ _ = _
      rw [induction]
  | draw earlier drawn induction =>
      rw [(draw_eq_ok_iff.mp drawn).2.1]
      exact induction

theorem last?_eq (history : After entries last? weighted) : weighted.last? = last? := by
  induction history with
  | start => rfl
  | add earlier value weight induction => exact induction
  | draw earlier drawn => rw [(draw_eq_ok_iff.mp drawn).2.1]

theorem total_eq (history : After entries last? weighted) :
    weighted.total = (sums 0 entries).getLastD 0 := by
  induction history with
  | start => rfl
  | add earlier value weight induction =>
      rw [sums_append, ← induction, sums, sums, List.getLastD_concat]
      rfl
  | draw earlier drawn induction =>
      rw [(draw_eq_ok_iff.mp drawn).2.1]
      exact induction

end After

def addAll (weighted : Weighted α) (entries : List (α × Float)) : Weighted α :=
  entries.foldl (fun weighted entry => weighted.add entry.1 entry.2) weighted

theorem last_addAll (weighted : Weighted α) (entries : List (α × Float)) :
    (weighted.addAll entries).last = weighted.last := by
  induction entries generalizing weighted with
  | nil => rfl
  | cons entry rest induction => exact induction (weighted.add entry.1 entry.2)

/-! ## What a draw selects -/

/-- The value that a target selects: the first one whose sum reaches it, or the one registered last
if no sum does, the last sum included. -/
def Selects (target : Float) (entries : List (α × Float)) (value : α) : Prop :=
  (∃ index, ReachedAt target (sums 0 entries) index ∧
    (entries.map Prod.fst)[index]? = some value) ∨
  ((∀ sum ∈ sums 0 entries, ¬target ≤ sum) ∧ ¬target ≤ (sums 0 entries).getLastD 0 ∧
    (entries.map Prod.fst).getLast? = some value)

theorem getLastD_mem_sums (some : entries ≠ []) (start : Float) :
    (sums start entries).getLastD start ∈ sums start entries := by
  cases entries with
  | nil => exact absurd rfl some
  | cons entry rest =>
      rw [sums, List.getLastD_cons]
      exact List.getLastD_mem_cons

theorem After.selects {last? : Option α} {weighted after : Weighted α} {σ : Type} [WordSource σ]
    {source rest : σ} (history : After entries last? weighted)
    (drawn : weighted.draw source = .ok (value, after, rest)) :
    Selects ((drawFraction source).1 * weighted.total) entries value := by
  have selected := (draw_eq_ok_iff.mp drawn).1
  rw [select?, history.entries_eq] at selected
  rcases Option.or_eq_some_iff.mp selected with reached | ⟨beyond, final⟩
  · exact .inl (firstReaching_eq_some_iff.mp reached)
  · rw [firstReaching_eq_none_iff] at beyond
    rw [← List.getLast?_map] at final
    have some : entries ≠ [] := by
      rintro rfl
      cases final
    exact .inr ⟨beyond, beyond _ (getLastD_mem_sums some 0), final⟩

/-- After any registrations and draws, the total is the sum that a draw has added up after the last
weight, and a draw that gets past all values would go on with it. A draw selects the first value
whose sum reaches the target, and falls back on the last value only if the target is not at most
the total. Then this value is the last one chosen, whatever is registered before the next draw. -/
theorem draws_follow_sums {last? : Option α} {weighted : Weighted α}
    (history : After entries last? weighted) :
    weighted.total = (sums 0 entries).getLastD 0 ∧
      (∀ target others, (∀ sum ∈ sums 0 entries, ¬target ≤ sum) →
        firstReaching target 0 (weighted.entries ++ others) =
          firstReaching target weighted.total others) ∧
      weighted.last = last?.elim (.error .nothingChosen) .ok ∧
      ∀ {σ : Type} [WordSource σ] (source : σ),
        (entries = [] → weighted.draw source = .error .nothingToChoose) ∧
        (entries ≠ [] → ∃ value after,
          weighted.draw source = .ok (value, after, (drawFraction source).2) ∧
          Selects ((drawFraction source).1 * weighted.total) entries value ∧
          ∀ others, (after.addAll others).last = .ok value) := by
  refine ⟨history.total_eq, fun target others beyond => ?_, ?_, fun {σ} _ source => ⟨?_, ?_⟩⟩
  · rw [history.entries_eq, history.total_eq, firstReaching_append beyond]
  · rw [last, history.last?_eq]
    cases last? <;> rfl
  · rintro rfl
    have none : weighted.select? (drawFraction source).1 = none := by
      rw [select?, history.entries_eq]
      rfl
    rw [draw]
    simp only [none]
  · intro some
    rcases exists_draw (history.entries_eq.symm ▸ some) source with ⟨value, after, rest, drawn⟩
    rcases draw_eq_ok_iff.mp drawn with ⟨_, _, rfl⟩
    refine ⟨value, after, drawn, history.selects drawn, fun others => ?_⟩
    rw [last_addAll, last, (history.draw drawn).last?_eq]

def threeQuarters : Nat → UInt64 := fun _ => 0xc000000000000000

/-- Three of four parts are those of the first value, the bound included, and it is the last one
chosen also when more values are registered, one of them with a weight that is no number. -/
theorem draws_follow_sums_bound :
    ∃ after, ((empty.add "set" 3).add "get" 1).draw threeQuarters =
        .ok ("set", after, threeQuarters) ∧
      ((after.add "scan" 2).add "set" (0 / 0)).last = .ok "set" := by
  have history : After [("set", 3), ("get", 1)] none ((empty.add "set" 3).add "get" 1) :=
    .add (.add .start "set" 3) "get" 1
  rcases ((draws_follow_sums history).2.2.2 threeQuarters).2 nofun with
    ⟨value, after, drawn, _, last⟩
  have selected : ((empty.add "set" 3).add "get" 1).select? (drawFraction threeQuarters).1 =
      some "set" := by decide +kernel
  cases selected.symm.trans (draw_eq_ok_iff.mp drawn).1
  exact ⟨after, drawn, last [("scan", 2), ("set", 0 / 0)]⟩

end StoreBench.Weighted
