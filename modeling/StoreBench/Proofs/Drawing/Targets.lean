import StoreBench.Proofs.Configured
import StoreBench.Proofs.Drawing.Scattered
import StoreBench.Proofs.Frontier.Contiguous

namespace StoreBench.Workload

/-! Whether a target can be drawn. Scattered draws range over the loaded records and the
room for new ones, but only numbers up to the frontier are accepted. The hash is not onto, so
with few records it may happen that no rank at all lands on a loaded one. -/

open Drawing

/-! ## States of a workload in use -/

inductive Offered {σ : Type} [WordSource σ] : {α : Type} → Drawing σ α → Prop where
  | record : Offered drawRecord
  | oneField : Offered drawOneField
  | number : Offered nextNumber
  | target : Offered drawTarget
  | operation : Offered drawOperation
  | fieldName : Offered drawFieldName
  | scanLength : Offered drawScanLength

/-- A workload in use: workers draw from it with any words, and acknowledge any numbers. -/
inductive Reached (first : Workload) : Workload → Prop where
  | start : Reached first first
  | drew {σ α : Type} [WordSource σ] {drawing : Drawing σ α} {before after : Workload}
      {source rest : σ} {value : α} (earlier : Reached first before) (offered : Offered drawing)
      (drawn : drawing.run (before, source) = .ok (value, after, rest)) : Reached first after
  | acknowledged {before after : Workload} {number : UInt64} (earlier : Reached first before)
      (done : before.acknowledge number = .ok after) : Reached first after

theorem Offered.keeps {σ α : Type} [WordSource σ] {drawing : Drawing σ α}
    {before after : Workload} {source rest : σ} {value : α} (offered : Offered drawing)
    (drawn : drawing.run (before, source) = .ok (value, after, rest)) :
    after.keys.bare = before.keys.bare ∧ after.frontier = before.frontier := by
  have keeps (same : after.bare = before.bare) :
      after.keys.bare = before.keys.bare ∧ after.frontier = before.frontier :=
    ⟨congrArg Workload.keys same, frontier_eq_of_bare same⟩
  cases offered with
  | record => exact keeps (drawRecord_keeps drawn)
  | oneField => exact keeps (drawOneField_keeps drawn)
  | target => exact keeps (drawTargetWithin_keeps redrawLimit drawn)
  | operation => exact keeps (drawOperation_keeps drawn)
  | fieldName => exact keeps (drawFieldName_keeps drawn)
  | scanLength => exact keeps (drawScanLength_keeps drawn)
  | number =>
      cases drawn
      exact ⟨rfl, rfl⟩

namespace Reached

variable {first after : Workload}

theorem keys_eq (reached : Reached first after) : after.keys.bare = first.keys.bare := by
  induction reached with
  | start => rfl
  | drew earlier offered drawn induction => exact (offered.keeps drawn).1.trans induction
  | acknowledged earlier done induction =>
      rcases acknowledge_eq_ok_iff.mp done with ⟨frontier, _, rfl⟩
      exact induction

theorem grown {start : UInt64} {known : UInt64 → Prop}
    (covers : Frontier.Covers start known first.frontier) (reached : Reached first after) :
    ∃ more, (∀ number, known number → more number) ∧
      Frontier.Covers start more after.frontier := by
  induction reached with
  | start => exact ⟨known, fun _ => id, covers⟩
  | drew earlier offered drawn induction =>
      rw [(offered.keeps drawn).2]
      exact induction
  | acknowledged earlier done induction =>
      rcases induction with ⟨more, grown, covers⟩
      rcases acknowledge_eq_ok_iff.mp done with ⟨frontier, acknowledged, rfl⟩
      exact ⟨_, fun number reached => .inl (grown number reached),
        covers.acknowledge acknowledged⟩

theorem covers (fresh : first.frontier = .startingAt first.recordCount)
    (reached : Reached first after) :
    ∃ known, Frontier.Covers first.recordCount known after.frontier := by
  have start := Frontier.covers_startingAt first.recordCount
  rw [← fresh] at start
  rcases reached.grown start with ⟨known, _, covers⟩
  exact ⟨known, covers⟩

theorem last_le_later (fresh : first.frontier = .startingAt first.recordCount)
    (positive : 0 < first.recordCount) (reached : Reached first after) {later : Workload}
    (onwards : Reached after later) : after.frontier.last ≤ later.frontier.last := by
  rcases reached.covers fresh with ⟨known, covers⟩
  rcases onwards.grown covers with ⟨more, grown, laterCovers⟩
  exact covers.last_le laterCovers positive grown

theorem last_le (fresh : first.frontier = .startingAt first.recordCount)
    (positive : 0 < first.recordCount) (reached : Reached first after) :
    first.frontier.last ≤ after.frontier.last :=
  Reached.start.last_le_later fresh positive reached

end Reached

/-! ## Targets of scattered draws -/

variable {σ : Type} [WordSource σ] {before after : Workload} {scattered : Scrambled}

theorem keys_of_bare (keys : before.keys.bare = (KeyChoice.scrambled scattered).bare) :
    ∃ current, before.keys = .scrambled current ∧ current.bare = scattered.bare := by
  cases kind : before.keys with
  | uniform even => simp [kind, KeyChoice.bare] at keys
  | latest recent => simp [kind, KeyChoice.bare] at keys
  | scrambled current =>
      rw [kind] at keys
      exact ⟨current, rfl, KeyChoice.scrambled.inj keys⟩

theorem numberFor_of_drawNumber {source rest : σ} {number : UInt64}
    (keys : before.keys.bare = (KeyChoice.scrambled scattered).bare)
    (drawn : drawNumber.run (before, source) = .ok (number, after, rest)) :
    scattered.numberFor (WordSource.nextWord source).1 = .ok number := by
  rcases keys_of_bare keys with ⟨current, kind, same⟩
  rcases run_drawNumber_eq_ok_iff.mp drawn with ⟨_, chosen, _⟩
  rw [kind] at chosen
  rcases KeyChoice.draw_scrambled_eq_ok_iff.mp chosen with ⟨_, scatteredDrawn, _⟩
  rw [← Scrambled.numberFor_congr same]
  exact Scrambled.numberFor_of_draw scatteredDrawn

theorem numberFor_of_drawTargetWithin {draws : Nat} {source rest : σ} {number : UInt64}
    (keys : before.keys.bare = (KeyChoice.scrambled scattered).bare)
    (drawn : (drawTargetWithin draws).run (before, source) = .ok (number, after, rest)) :
    ∃ word, scattered.numberFor word = .ok number := by
  induction draws generalizing before source with
  | zero => cases drawn
  | succ draws induction =>
      rcases run_bind_eq_ok_iff.mp drawn with ⟨candidate, ⟨middle, between⟩, first, others⟩
      rcases run_bind_eq_ok_iff.mp others with ⟨state, _, seen, others⟩
      cases seen
      split at others
      · cases others
        exact ⟨_, numberFor_of_drawNumber keys first⟩
      -- The draw that is rejected leaves nothing but its traces to the next one.
      · have same := congrArg Workload.keys (drawNumber_keeps first)
        exact induction (same.trans keys) others

theorem drawTargetWithin_of_le {source rest : σ} {number : UInt64}
    (drawn : drawNumber.run (before, source) = .ok (number, after, rest))
    (reached : number ≤ after.frontier.last) (draws : Nat) :
    (drawTargetWithin (draws + 1)).run (before, source) = .ok (number, after, rest) := by
  refine run_bind_eq_ok_iff.mpr ⟨_, _, drawn, run_bind_eq_ok_iff.mpr ⟨_, _, rfl, ?_⟩⟩
  rw [if_pos reached]
  rfl

theorem drawTarget_of_le {source rest : σ} {number : UInt64}
    (drawn : drawNumber.run (before, source) = .ok (number, after, rest))
    (reached : number ≤ after.frontier.last) :
    drawTarget.run (before, source) = .ok (number, after, rest) := by
  rcases Nat.exists_eq_succ_of_ne_zero (by decide : redrawLimit ≠ 0) with ⟨draws, limit⟩
  rw [drawTarget, limit]
  exact drawTargetWithin_of_le drawn reached draws

theorem drawTarget_of_numberFor {word number : UInt64}
    (keys : before.keys.bare = (KeyChoice.scrambled scattered).bare)
    (support : Zipfian.supported scattered.ranks.items)
    (found : scattered.numberFor word = .ok number) (reached : number ≤ before.frontier.last) :
    ∃ after rest, drawTarget.run (before, fun _ : Nat => word) = .ok (number, after, rest) := by
  rcases keys_of_bare keys with ⟨current, kind, same⟩
  have items : current.ranks.items = scattered.ranks.items := by
    have settled := congrArg (fun choice : Scrambled => choice.ranks.items) same
    simpa [Scrambled.bare, Zipfian.settled, Zipfian.resize_items] using settled
  have words : (WordSource.nextWord (fun _ : Nat => word)).1 = word := rfl
  rw [← Scrambled.numberFor_congr same, ← words] at found
  rcases Scrambled.draw_of_numberFor (items ▸ support) found with ⟨after, drawn⟩
  have first : drawNumber.run (before, fun _ : Nat => word) =
      .ok (number, { before with keys := .scrambled after }, fun _ => word) := by
    refine run_drawNumber_eq_ok_iff.mpr ⟨_, ?_, rfl⟩
    rw [kind]
    exact KeyChoice.draw_scrambled_eq_ok_iff.mpr ⟨after, drawn, rfl⟩
  exact ⟨_, _, drawTarget_of_le first reached⟩

/-! ## Accepted workloads -/

theorem Configured.keys_scrambled {properties : Properties} {workload : Workload}
    (configured : Configured properties workload)
    (zipfian : workload.requestDistribution = .zipfian) :
    ∃ scattered, workload.keys = .scrambled scattered ∧ scattered.Below scattered.items := by
  rcases configured.proportions with ⟨proportions, _, _, made⟩
  rw [zipfian] at made
  dsimp only [KeyChoice.make] at made
  split at made
  · rcases bind_eq_ok_iff.mp made with ⟨items, _, made⟩
    rcases bind_eq_ok_iff.mp made with ⟨scattered, scatteredMade, made⟩
    have below := Scrambled.below_of_ok (liftConfig_eq_ok_iff.mp scatteredMade)
    have keys := pure_eq_ok_iff.mp made
    refine ⟨scattered, keys.symm, ?_⟩
    rw [below.items]
    exact below
  · cases made

/-- Exactly if some rank lands on a loaded record, some rank lands up to the frontier in every
state of a workload with scattered targets. Exactly if some word is drawn to such a rank, there
are always words that end the redraws. If no rank lands on a loaded record, the redraws do not
end before an insert is acknowledged, whatever the words are. -/
theorem target_reachable_iff {properties : Properties} {workload : Workload}
    (accepted : ofProperties properties = .ok workload)
    (zipfian : workload.requestDistribution = .zipfian) :
    ∃ scattered, workload.keys = .scrambled scattered ∧
      ((∀ after, Reached workload after →
          ∃ rank < scattered.items, hashWord rank % scattered.items ≤ after.frontier.last) ↔
        ∃ rank < scattered.items, hashWord rank % scattered.items < workload.recordCount) ∧
      ((∀ after, Reached workload after → ∃ (words : Nat → UInt64) (number : UInt64)
          (later : Workload) (rest : Nat → UInt64),
          drawTarget.run (after, words) = .ok (number, later, rest)) ↔
        ∃ word number, scattered.numberFor word = .ok number ∧ number < workload.recordCount) ∧
      ((∀ rank < scattered.items, workload.recordCount ≤ hashWord rank % scattered.items) →
        ∀ {σ : Type} [WordSource σ] (source rest : σ) (number : UInt64) (later : Workload),
          drawTarget.run (workload, source) ≠ .ok (number, later, rest)) := by
  have configured := configured_of_ofProperties accepted
  rcases configured.keys_scrambled zipfian with ⟨scattered, keys, below⟩
  have fresh := configured.frontier
  have positive := configured.recordCount_positive
  have bound {number : UInt64} :
      number ≤ workload.frontier.last ↔ number < workload.recordCount := by
    rw [fresh]
    exact Frontier.le_last_iff positive
  -- The frontier only moves up, so the state before any acknowledgement is the one that decides.
  have drawn {σ : Type} [WordSource σ] {source rest : σ} {number : UInt64} {later : Workload}
      (target : drawTarget.run (workload, source) = .ok (number, later, rest)) :
      ∃ word, scattered.numberFor word = .ok number ∧ number < workload.recordCount := by
    rcases numberFor_of_drawTargetWithin (congrArg KeyChoice.bare keys) target with ⟨word, found⟩
    exact ⟨word, found, bound.mp (le_last_of_drawTargetWithin target)⟩
  refine ⟨scattered, keys, ⟨?_, ?_⟩, ⟨?_, ?_⟩, ?_⟩
  · intro always
    rcases always workload .start with ⟨rank, small, lands⟩
    exact ⟨rank, small, bound.mp lands⟩
  · intro reachable after reached
    rcases reachable with ⟨rank, small, lands⟩
    exact ⟨rank, small, UInt64.le_trans (bound.mpr lands) (reached.last_le fresh positive)⟩
  · intro always
    rcases always workload .start with ⟨words, number, later, rest, target⟩
    rcases drawn target with ⟨word, found, small⟩
    exact ⟨word, number, found, small⟩
  · intro reachable after reached
    rcases reachable with ⟨word, number, found, small⟩
    have support : Zipfian.supported scattered.ranks.items :=
      below.ranks.items ▸ below.ranks.support
    rcases drawTarget_of_numberFor
      (reached.keys_eq.trans (congrArg KeyChoice.bare keys)) support found
      (UInt64.le_trans (bound.mpr small) (reached.last_le fresh positive)) with
      ⟨later, rest, target⟩
    exact ⟨_, number, later, rest, target⟩
  · intro missed σ _ source rest number later target
    rcases drawn target with ⟨word, found, small⟩
    rcases Scrambled.numberFor_lands below found with ⟨rank, inside, rfl⟩
    exact UInt64.not_lt.mpr (missed rank inside) small

/-- One record, and room for six more. -/
def roomForSix : Properties where
  table := [("recordcount", .integer 1), ("operationcount", .integer 6),
    ("requestdistribution", .text "zipfian"), ("readproportion", .float 0.5),
    ("updateproportion", .float 0), ("insertproportion", .float 0.5)]

def scatteredItems? : KeyChoice → Option UInt64
  | .scrambled scattered => some scattered.items
  | _ => none

theorem ofProperties_roomForSix :
    ∃ workload scattered, ofProperties roomForSix = .ok workload ∧
      workload.requestDistribution = .zipfian ∧ workload.keys = .scrambled scattered ∧
      scattered.items = 7 ∧ workload.recordCount = 1 ∧ workload.frontier.last = 0 := by
  have computed : (ofProperties roomForSix).toOption.map (fun workload =>
      (workload.requestDistribution, scatteredItems? workload.keys, workload.recordCount,
        workload.frontier.last)) = some (.zipfian, some 7, 1, 0) := by decide +kernel
  rcases Option.map_eq_some_iff.mp computed with ⟨workload, accepted, parts⟩
  simp only [Prod.mk.injEq] at parts
  rcases parts with ⟨zipfian, items, records, last⟩
  cases keys : workload.keys with
  | uniform | latest => simp [keys, scatteredItems?] at items
  | scrambled scattered =>
      rw [keys] at items
      exact ⟨workload, scattered, toOption_eq_some_iff.mp accepted, zipfian, keys,
        Option.some.inj items, records, last⟩

theorem no_rank_of_seven_lands (rank : UInt64) (small : rank < 7) : hashWord rank % 7 ≠ 0 := by
  have each : ∀ number < 7, hashWord (UInt64.ofNat number) % 7 ≠ 0 := by decide +kernel
  have same : UInt64.ofNat rank.toNat = rank := UInt64.ofNat_toNat
  exact same ▸ each rank.toNat (UInt64.lt_iff_toNat_lt.mp small)

theorem target_reachable_iff_roomForSix :
    ∃ workload, ofProperties roomForSix = .ok workload ∧
      workload.requestDistribution = .zipfian ∧
      ∀ {σ : Type} [WordSource σ] (source rest : σ) (number : UInt64) (later : Workload),
        drawTarget.run (workload, source) ≠ .ok (number, later, rest) := by
  rcases ofProperties_roomForSix with
    ⟨workload, scattered, accepted, zipfian, keys, items, records, _⟩
  rcases target_reachable_iff accepted zipfian with ⟨same, sameKeys, _, _, missed⟩
  cases keys.symm.trans sameKeys
  refine ⟨workload, accepted, zipfian, missed ?_⟩
  intro rank small
  rw [items] at small ⊢
  rw [records]
  have positive := UInt64.pos_iff_ne_zero.mpr (no_rank_of_seven_lands rank small)
  rw [UInt64.lt_iff_toNat_lt, UInt64.toNat_zero] at positive
  rw [UInt64.le_iff_toNat_le, UInt64.toNat_one]
  exact positive

/-- With one record and room for six more, no rank lands up to the frontier at first. -/
theorem not_every_target_reachable :
    ¬∀ properties workload scattered after, ofProperties properties = .ok workload →
      workload.keys = .scrambled scattered → Reached workload after →
      ∃ rank < scattered.items, hashWord rank % scattered.items ≤ after.frontier.last := by
  intro always
  rcases ofProperties_roomForSix with ⟨workload, scattered, accepted, _, keys, items, _, last⟩
  rcases always _ workload scattered workload accepted keys .start with ⟨rank, small, lands⟩
  rw [items] at small lands
  rw [last] at lands
  exact no_rank_of_seven_lands rank small (UInt64.le_zero_iff.mp lands)

end StoreBench.Workload
