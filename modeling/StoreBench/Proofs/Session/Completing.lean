import StoreBench.Proofs.Drawing.Completes
import StoreBench.Proofs.Interleaving.History
import StoreBench.Proofs.Session.Performed

namespace StoreBench

/-! When a transaction completes. All its draws do, but for the redraws of a target that is past
the frontier, which may never end; and an acknowledgement does as long as it leaves a gap. -/

namespace Drawing

open Workload (Serving)

variable {σ α β : Type} {first : Workload}

/-- In every state of use, a drawing leads to such a state, or its redraws do not end. -/
def Persists (first : Workload) (drawing : Drawing σ α) : Prop :=
  ∀ ⦃before : Workload⦄ (source : σ), Serving first before →
    match drawing.run (before, source) with
    | .ok (_, after, _) => Serving first after
    | .error crash => crash = .redrawLimit

theorem Completes.persists {property : α → Prop} {drawing : Drawing σ α}
    (completes : Completes first property drawing) : Persists first drawing := by
  intro before source serving
  rcases completes source serving with ⟨value, after, rest, drawn, _, servingAfter⟩
  rw [drawn]
  exact servingAfter

theorem Persists.bind {start : Drawing σ α} {next : α → Drawing σ β}
    (persists : Persists first start) (nextPersists : ∀ value, Persists first (next value)) :
    Persists first (start >>= next) := by
  intro before source serving
  have started := persists source serving
  rw [StateT.run_bind]
  cases drawn : start.run (before, source) with
  | error crash =>
      rw [drawn] at started
      exact started
  | ok result =>
      rw [drawn] at started
      exact nextPersists result.1 result.2.2 started

theorem persists_pure (value : α) : Persists first (pure value : Drawing σ α) :=
  fun _ _ serving => serving

theorem persists_seen (make : Workload × σ → α) :
    Persists first (do return make (← get) : Drawing σ α) :=
  completes_get.persists.bind fun _ => persists_pure _

end Drawing

namespace Workload

open Drawing

variable {σ : Type} [WordSource σ] {properties : Properties} {first : Workload}

theorem persists_drawTarget (configured : Configured properties first) :
    Persists first (drawTarget (σ := σ)) := by
  intro before source serving
  cases drawn : (drawTarget (σ := σ)).run (before, source) with
  | error crash => exact serving.redrawLimit_of_drawTargetWithin configured drawn
  | ok result =>
      have same := drawTargetWithin_keeps redrawLimit drawn
      exact serving.of_idle (idle_eq_of_bare same) (frontier_eq_of_bare same)

theorem persists_drawWanted (configured : Configured properties first) :
    Persists first (drawWanted (σ := σ)) := by
  apply completes_get.persists.bind
  intro state
  split
  · exact persists_pure _
  · exact (completes_drawFieldName configured).persists.bind fun _ => persists_pure _

theorem persists_drawUpdate (configured : Configured properties first) :
    Persists first (drawUpdate (σ := σ)) := by
  apply completes_get.persists.bind
  intro state
  split
  · exact (completes_drawRecord configured).persists
  · exact (completes_drawOneField configured).persists

theorem persists_numbered (configured : Configured properties first)
    {next : UInt64 → String → Record → Drawing σ Transaction}
    (persists : ∀ number key values, Persists first (next number key values)) :
    Persists first (do
      let number ← nextNumber
      let key ← keyWith number
      next number key (← drawRecord)) := by
  apply completes_nextNumber.persists.bind
  intro number
  apply (completes_keyWith number).persists.bind
  intro key
  exact (completes_drawRecord configured).persists.bind fun values => persists number key values

theorem persists_aimed (configured : Configured properties first)
    {next : String → Drawing σ Transaction} (persists : ∀ key, Persists first (next key)) :
    Persists first (do
      let key ← keyWith (← drawTarget)
      next key) := by
  apply (persists_drawTarget configured).bind
  intro number
  exact (completes_keyWith number).persists.bind persists

theorem persists_nextTransaction (configured : Configured properties first) :
    Persists first (nextTransaction (σ := σ)) := by
  apply (completes_drawOperation configured).persists.bind
  intro operation
  cases operation with
  | insert => exact persists_numbered configured fun _ _ _ => persists_seen _
  | read =>
      apply persists_aimed configured
      intro key
      exact (persists_drawWanted configured).bind fun _ => persists_seen _
  | update =>
      apply persists_aimed configured
      intro key
      exact (persists_drawUpdate configured).bind fun _ => persists_seen _
  | scan =>
      apply persists_aimed configured
      intro key
      apply (completes_drawScanLength configured).persists.bind
      intro length
      exact (persists_drawWanted configured).bind fun _ => persists_seen _
  | readModifyWrite =>
      apply persists_aimed configured
      intro key
      apply (persists_drawWanted configured).bind
      intro fields
      exact (persists_drawUpdate configured).bind fun _ => persists_seen _

theorem persists_drawing (configured : Configured properties first) (phase : Phase) :
    Persists first (phase.drawing (σ := σ)) := by
  cases phase with
  | load => exact persists_numbered configured fun _ _ _ => persists_seen _
  | transactions => exact persists_nextTransaction configured

end Workload

namespace Session

open Workload (InService)

variable {σ S H : Type} [WordSource σ] [Backend S H] {properties : Properties} {first : Workload}
variable {phase : Phase} {session : Session σ H} {world : World S} {known : UInt64 → Prop}
variable {gap : UInt64} {crash : Crash}

/-- A transaction that is performed while the workload is in service completes, unless its redraws
do not end. The condition on the gap is the one under which all calls of a workload complete. -/
theorem redrawLimit_of_perform (accepted : Workload.ofProperties properties = .ok first)
    (inService : InService first known world.workload) (small : gap ≤ Zipfian.itemLimit)
    (lower : first.recordCount ≤ gap) (unknown : ¬known gap)
    (spared : gap ≠ world.workload.keySequence.upcoming)
    (failed : session.perform phase.drawing world = .error crash) : crash = .redrawLimit := by
  have configured := Workload.configured_of_ofProperties accepted
  have serving := inService.serving configured small lower unknown
  rcases bind_eq_error_iff.mp failed with failed | ⟨⟨transaction, next, middle⟩, drawn, failed⟩
  · have persists := Workload.persists_drawing configured phase session.source serving
    rcases bind_eq_error_iff.mp failed with failed | ⟨_, _, impossible⟩
    · rw [failed] at persists
      exact persists
    · cases impossible
  · rcases draw_eq_ok_iff.mp drawn with ⟨workload, source, run, rfl, rfl⟩
    have made := Workload.drawing_drawn run
    have covers : Frontier.Covers first.recordCount known workload.frontier :=
      made.frontier_eq ▸ inService.covers
    have settles (status : Status) : ∃ last, workload.settle transaction status = .ok last := by
      have spares : gap ∉ transaction.acknowledged status := by
        intro member
        have numbered := (Transaction.mem_acknowledged_iff.mp member).2
        cases made <;> cases numbered
        exact spared rfl
      rcases covers.acknowledgeAll_succeeds lower unknown spares with ⟨frontier, acknowledged⟩
      exact ⟨_, Workload.settle_eq_ok_iff.mpr ⟨frontier, acknowledged, rfl⟩⟩
    simp only [askAll_eq, ask] at failed
    rcases bind_eq_error_iff.mp failed with failed | ⟨_, _, impossible⟩
    · rcases settles _ with ⟨last, settled⟩
      cases settled.symm.trans failed
    · cases impossible

end Session
end StoreBench
