import StoreBench.Proofs.Drawing.InUse
import StoreBench.Proofs.Interleaving.Steps

namespace StoreBench

/-! How many steps a worker has left. A transaction makes one call at most before the deciding
one, so it is done after four steps, and every step leaves its worker with fewer. -/

variable {ι σ S H : Type} [WordSource σ]

theorem Workload.yields_drawing (phase : Phase) :
    (phase.drawing (σ := σ)).Yields fun made => made.earlier.length ≤ 1 := by
  cases phase with
  | load =>
      exact .bind fun _ => .bind fun _ => .bind fun _ => .bind fun _ =>
        Drawing.yields_pure (Nat.zero_le 1)
  | transactions =>
      apply Drawing.Yields.bind
      intro operation
      cases operation with
      | read | update | insert =>
          exact .bind fun _ => .bind fun _ => .bind fun _ => .bind fun _ =>
            Drawing.yields_pure (Nat.zero_le 1)
      | scan =>
          exact .bind fun _ => .bind fun _ => .bind fun _ => .bind fun _ => .bind fun _ =>
            Drawing.yields_pure (Nat.zero_le 1)
      | readModifyWrite =>
          exact .bind fun _ => .bind fun _ => .bind fun _ => .bind fun _ => .bind fun _ =>
            Drawing.yields_pure (Nat.le_refl 1)

theorem Session.earlier_of_draw {phase : Phase} {session after : Session σ H}
    {world later : World S} {transaction : Transaction}
    (drawn : session.draw phase.drawing world = .ok (transaction, after, later)) :
    transaction.earlier.length ≤ 1 := by
  rcases Session.draw_eq_ok_iff.mp drawn with ⟨workload, source, made, _, _⟩
  exact Workload.yields_drawing phase made

def Activity.remaining : Activity → Nat
  | .ready => 0
  | .asking _ _ earlier => earlier.length + 2
  | .answered .. => 1

/-- No fewer than the steps that a worker has left. -/
def Worker.remaining (worker : Worker σ H) : Nat :=
  4 * worker.ahead.length + worker.activity.remaining

theorem Step.remaining_lt [DecidableEq ι] [Backend S H] {crew next : Crew ι σ S H}
    {event : Event ι} (step : Step crew event next) :
    (next.worker event.worker).remaining < (crew.worker event.worker).remaining := by
  cases step with
  | draw ready drawn =>
      have few := Session.earlier_of_draw drawn
      simp only [Event.worker, Crew.move_worker_same, ready, Worker.remaining,
        Activity.remaining, List.length_cons]
      omega
  | askEarlier asking answered =>
      simp [Event.worker, asking, Worker.remaining, Activity.remaining]
  | askDeciding asking answered =>
      simp [Event.worker, asking, Worker.remaining, Activity.remaining]
  | settle answered settled =>
      simp [Event.worker, answered, Worker.remaining, Activity.remaining]

end StoreBench
