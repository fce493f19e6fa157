import StoreBench.Proofs.Configured
import StoreBench.Proofs.Drawing.Frame
import StoreBench.Proofs.Drawing.InUse
import StoreBench.Proofs.Drawing.Weights

namespace StoreBench

/-! Proportions of operations that are all multiplied by one power of two. The mix stays the
same, and so does everything that is drawn from a workload, unless the popular keys are
scattered: the room for new keys is made by the proportion of inserts alone, whatever its share
in the mix. -/

namespace Proportions

variable {power : ℤ} {proportions multiples : Proportions}

structure Scaled (power : ℤ) (proportions multiples : Proportions) : Prop where
  read : ScaledBy power proportions.read multiples.read
  update : ScaledBy power proportions.update multiples.update
  insert : ScaledBy power proportions.insert multiples.insert
  scan : ScaledBy power proportions.scan multiples.scan
  readModifyWrite : ScaledBy power proportions.readModifyWrite multiples.readModifyWrite

def sums (proportions : Proportions) : List Float := Weighted.sums 0 proportions.positive

/-- What a draw computes with the proportions is too large for both or for none of them, and
too small for all its digits for none. -/
structure InRange (proportions multiples : Proportions) : Prop where
  overflow : proportions.sums.map Float.isInf = multiples.sums.map Float.isInf
  enough : leastTotal ≤ proportions.mix.total
  enough' : leastTotal ≤ multiples.mix.total

theorem Scaled.positive (scaled : Scaled power proportions multiples) :
    Weighted.Multiples power proportions.positive multiples.positive := by
  have kept {entries others : List (Operation × Float)}
      (pairs : List.Forall₂ (fun entry other =>
        entry.1 = other.1 ∧ ScaledBy power entry.2 other.2) entries others) :
      Weighted.Multiples power (entries.filter fun entry => decide (0 < entry.2))
        (others.filter fun entry => decide (0 < entry.2)) := by
    induction pairs with
    | nil => exact .nil
    | @cons entry other _ _ pair _ induction =>
        have same := pair.2.pos_iff
        by_cases positive : 0 < entry.2
        · rw [List.filter_cons_of_pos (by simpa using positive),
            List.filter_cons_of_pos (by simpa using same.mp positive)]
          exact .cons ⟨pair.1, positive, pair.2⟩ induction
        · rw [List.filter_cons_of_neg (by simpa using positive),
            List.filter_cons_of_neg (by simpa using fun both => positive (same.mpr both))]
          exact induction
  exact kept (.cons ⟨rfl, scaled.read⟩ (.cons ⟨rfl, scaled.update⟩ (.cons ⟨rfl, scaled.insert⟩
    (.cons ⟨rfl, scaled.scan⟩ (.cons ⟨rfl, scaled.readModifyWrite⟩ .nil)))))

theorem total_mix (proportions : Proportions) :
    proportions.mix.total =
      proportions.positive.foldl (fun sum entry => sum + entry.2) 0 := by
  have added (weights : List (Operation × Float)) (mix : Weighted Operation) :
      (weights.foldl (fun mix entry => mix.add entry.1 entry.2) mix).total =
        weights.foldl (fun sum entry => sum + entry.2) mix.total := by
    induction weights generalizing mix with
    | nil => rfl
    | cons entry rest induction => exact induction (mix.add entry.1 entry.2)
  exact added proportions.positive .empty

theorem Scaled.select?_mix (scaled : Scaled power proportions multiples)
    (inRange : InRange proportions multiples) (word : UInt64) :
    multiples.mix.select? (fractionOf word) = proportions.mix.select? (fractionOf word) := by
  have entries := scaled.positive
  have totals : Sums power proportions.mix.total multiples.mix.total := by
    rw [total_mix, total_mix]
    exact Weighted.sums_multiples entries sums_zero inRange.overflow
  have targets := targets_fractionOf word totals inRange.enough inRange.enough'
  simp only [Weighted.select?, entries_mix]
  rw [Weighted.firstReaching_multiples targets entries sums_zero inRange.overflow,
    Weighted.getLast?_multiples entries]

/-- Where the weights have too large a sum and half of them do not, the choice differs. -/
example :
    (Proportions.mk 1e308 1e308 0 0 0).mix.select? (fractionOf 0x2000000000000000) =
      some .update ∧
    (Proportions.mk 5e307 5e307 0 0 0).mix.select? (fractionOf 0x2000000000000000) =
      some .read := by
  decide +kernel

theorem Scaled.mixOf_eq (scaled : Scaled power proportions multiples)
    {mix : Weighted Operation} (made : Workload.mixOf proportions = .ok mix) :
    Workload.mixOf multiples = .ok multiples.mix := by
  have entries := scaled.positive
  have some := (Workload.mixOf_eq_ok_iff.mp made).1
  refine Workload.mixOf_eq_ok_iff.mpr ⟨?_, rfl⟩
  rintro none
  rw [none] at entries
  exact some (List.forall₂_nil_right_iff.mp entries)

end Proportions

/-! ## What is asked of a workload -/

namespace Workload

inductive Ask where
  | operation
  | target
  | acknowledge (number : UInt64)

inductive Response where
  | operation (operation : Operation)
  | target (number : UInt64)
  | acknowledged

section

variable {σ : Type} [WordSource σ]

def respond : Ask → Drawing σ Response
  | .operation => return .operation (← drawOperation)
  | .target => return .target (← drawTarget)
  | .acknowledge number => do
      let (workload, source) ← get
      set (← (workload.acknowledge number : Except Crash Workload), source)
      return .acknowledged

def respondAll : List Ask → Drawing σ (List Response)
  | [] => return []
  | ask :: rest => return (← respond ask) :: (← respondAll rest)

end

/-- Workloads that differ in their mixes only, and draw from them as from two given ones. -/
structure Remixed (mix other : Weighted Operation) (workload after : Workload) : Prop where
  rest : after = { workload with operations := after.operations }
  operations : workload.operations.bare = mix.bare
  operations' : after.operations.bare = other.bare

end Workload

namespace Drawing

open Workload (Remixed)

variable {σ α β : Type} {mix other : Weighted Operation}

def Blind (mix other : Weighted Operation) (drawing : Drawing σ α) : Prop :=
  ∀ ⦃before before'⦄ source, Remixed mix other before before' →
    (∃ value after after' rest, drawing.run (before, source) = .ok (value, after, rest) ∧
      drawing.run (before', source) = .ok (value, after', rest) ∧ Remixed mix other after after') ∨
    ∃ crash, drawing.run (before, source) = .error crash ∧
      drawing.run (before', source) = .error crash

theorem blind_pure (value : α) : Blind mix other (pure value : Drawing σ α) :=
  fun _ _ source remixed => .inl ⟨value, _, _, source, rfl, rfl, remixed⟩

theorem blind_throw (crash : Crash) : Blind mix other (throw crash : Drawing σ α) :=
  fun _ _ _ _ => .inr ⟨crash, rfl, rfl⟩

theorem Blind.bind {first : Drawing σ α} {next : α → Drawing σ β}
    (blind : Blind mix other first) (later : ∀ value, Blind mix other (next value)) :
    Blind mix other (first >>= next) := by
  intro before before' source remixed
  rw [StateT.run_bind, StateT.run_bind]
  rcases blind source remixed with ⟨value, after, after', rest, drawn, drawn', kept⟩ |
    ⟨crash, failed, failed'⟩
  · rw [drawn, drawn']
    exact later value rest kept
  · rw [failed, failed']
    exact .inr ⟨crash, rfl, rfl⟩

theorem blind_of_map {γ : Type} {drawing : Drawing σ α} {draw : Workload → σ → Except Crash γ}
    {result : Workload → γ → α × Workload × σ}
    (run : ∀ before source,
      drawing.run (before, source) = (draw before source).map (result before))
    (same : ∀ before before' source, Remixed mix other before before' →
      draw before' source = draw before source)
    (kept : ∀ before before' drawn, Remixed mix other before before' →
      (result before' drawn).1 = (result before drawn).1 ∧
      (result before' drawn).2.2 = (result before drawn).2.2 ∧
      Remixed mix other (result before drawn).2.1 (result before' drawn).2.1) :
    Blind mix other drawing := by
  intro before before' source remixed
  rw [run, run, same before before' source remixed]
  cases draw before source with
  | error crash => exact .inr ⟨crash, rfl, rfl⟩
  | ok drawn =>
      rcases kept before before' drawn remixed with ⟨value, rest, later⟩
      refine .inl ⟨_, _, _, _, rfl, ?_, later⟩
      rw [← value, ← rest]
      rfl

theorem blind_last (next : UInt64 → Drawing σ α) (blind : ∀ last, Blind mix other (next last)) :
    Blind mix other (do next (← get).1.frontier.last) := by
  intro before before' source remixed
  have same : before'.frontier.last = before.frontier.last := by rw [remixed.rest]
  have run (workload : Workload) :
      (do next (← get).1.frontier.last : Drawing σ α).run (workload, source) =
        (next workload.frontier.last).run (workload, source) := rfl
  rw [run, run, same]
  exact blind _ source remixed

end Drawing

namespace Workload

open Drawing

variable {σ : Type} [WordSource σ] {mix other : Weighted Operation}

theorem blind_drawNumber : Blind mix other (drawNumber (σ := σ)) := by
  apply blind_of_map run_drawNumber
  · intro before before' source remixed
    rw [remixed.rest]
  · intro before before' drawn remixed
    refine ⟨rfl, rfl, ⟨?_, remixed.operations, remixed.operations'⟩⟩
    rw [remixed.rest]

theorem blind_drawTargetWithin (draws : Nat) :
    Blind mix other (drawTargetWithin (σ := σ) draws) := by
  induction draws with
  | zero => exact blind_throw _
  | succ draws induction =>
      apply blind_drawNumber.bind
      intro number
      refine blind_last
        (fun last => if number ≤ last then pure number else drawTargetWithin draws) fun last => ?_
      split
      · exact blind_pure _
      · exact induction

theorem blind_drawOperation
    (same : ∀ word, other.select? (fractionOf word) = mix.select? (fractionOf word)) :
    Blind mix other (drawOperation (σ := σ)) := by
  intro before before' source remixed
  have chosen : before'.operations.select? = other.select? :=
    (congrArg Weighted.select? remixed.operations' : before'.operations.bare.select? = _)
  have chosen' : before.operations.select? = mix.select? :=
    (congrArg Weighted.select? remixed.operations : before.operations.bare.select? = _)
  simp only [run_drawOperation, Weighted.draw, drawFraction_eq, chosen, chosen', same]
  cases mix.select? (fractionOf (WordSource.nextWord source).1) with
  | none => exact .inr ⟨.nothingToChoose, rfl, rfl⟩
  | some operation =>
      refine .inl ⟨operation, _, _, _, rfl, rfl, ⟨?_, remixed.operations, remixed.operations'⟩⟩
      rw [remixed.rest]

theorem run_respond_acknowledge (number : UInt64) (before : Workload) (source : σ) :
    (respond (.acknowledge number)).run (before, source) =
      ((before.frontier.acknowledge number).map (·, source)).map fun (frontier, rest) =>
        (.acknowledged, { before with frontier }, rest) := by
  cases moved : before.frontier.acknowledge number <;>
    simp only [respond, acknowledge, StateT.run_bind, StateT.run_get, pure_bind, moved] <;> rfl

theorem blind_acknowledge (number : UInt64) :
    Blind mix other (respond (σ := σ) (.acknowledge number)) := by
  apply blind_of_map (run_respond_acknowledge number)
  · intro before before' source remixed
    rw [remixed.rest]
  · intro before before' drawn remixed
    refine ⟨rfl, rfl, ⟨?_, remixed.operations, remixed.operations'⟩⟩
    rw [remixed.rest]

theorem blind_respondAll
    (same : ∀ word, other.select? (fractionOf word) = mix.select? (fractionOf word))
    (asks : List Ask) : Blind mix other (respondAll (σ := σ) asks) := by
  induction asks with
  | nil => exact blind_pure _
  | cons ask rest induction =>
      have first : Blind mix other (respond (σ := σ) ask) := by
        cases ask with
        | operation => exact (blind_drawOperation same).bind fun _ => blind_pure _
        | target => exact (blind_drawTargetWithin redrawLimit).bind fun _ => blind_pure _
        | acknowledge number => exact blind_acknowledge number
      exact first.bind fun _ => induction.bind fun _ => blind_pure _

end Workload
end StoreBench
