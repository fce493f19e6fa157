import StoreBench.Proofs.Drawing.InUse
import StoreBench.Proofs.Interleaving.Dispensed
import StoreBench.Proofs.Session.Performed
import StoreBench.Store.Registry
import StoreBench.Store.Scripted

namespace StoreBench

/-! What a store has an influence on. The answers of a store reach the workload only by the
outcomes of inserts among the transactions, which decide where the frontier is. So two stores that
agree on these are asked the same calls by the same words, whatever else they answer. With even
draws the frontier does not count either, and no store has an influence on the calls. -/

/-! ## Several transactions -/

section Several

variable {σ S H : Type} [WordSource σ] [Backend S H]

def Session.performAll : List Phase → Session σ H → World S →
    Except Crash (List Outcome × Session σ H × World S)
  | [], session, world => .ok ([], session, world)
  | phase :: rest, session, world => do
      let (outcome, session, world) ← session.perform phase.drawing world
      let (outcomes, session, world) ← performAll rest session world
      return (outcome :: outcomes, session, world)

theorem Phase.work_eq_performAll (phase : Phase) (count : Nat) (session : Session σ H)
    (world : World S) :
    phase.work count session world =
      (session.performAll (List.replicate count phase) world).map
        fun (outcomes, _, world) => (outcomes, world) := by
  induction count generalizing session world with
  | zero => rfl
  | succ count induction =>
      rw [List.replicate_succ, Session.performAll, work_succ]
      cases performed : session.perform phase.drawing world with
      | error crash => rfl
      | ok result =>
          rcases result with ⟨outcome, next, middle⟩
          simp only [bind, Except.bind, induction]
          cases Session.performAll (List.replicate count phase) next middle <;> rfl

end Several

/-- Two outcomes that are not at odds over an insert among the transactions. -/
def Outcome.Agrees (phase : Phase) (outcome other : Outcome) : Prop :=
  phase = .transactions → outcome.operation = .insert → other.operation = .insert →
    outcome.status.isOk = other.status.isOk

def AgreeOnInserts : List Phase → List Outcome → List Outcome → Prop
  | phase :: phases, outcome :: outcomes, other :: others =>
      outcome.Agrees phase other ∧ AgreeOnInserts phases outcomes others
  | _, _, _ => True

instance (phase : Phase) (outcome other : Outcome) : Decidable (outcome.Agrees phase other) :=
  inferInstanceAs (Decidable (_ → _ → _ → _))

instance decidableAgreeOnInserts :
    (phases : List Phase) → (outcomes others : List Outcome) →
      Decidable (AgreeOnInserts phases outcomes others)
  | phase :: phases, outcome :: outcomes, other :: others =>
      have := decidableAgreeOnInserts phases outcomes others
      inferInstanceAs (Decidable (outcome.Agrees phase other ∧ _))
  | [], _, _ => isTrue (by simp [AgreeOnInserts])
  | _ :: _, [], _ => isTrue trivial
  | _ :: _, _ :: _, [] => isTrue trivial

/-! ## Transactions that are drawn alike -/

def Request.keyed (key : String) : Request → Request
  | .insert table _ values => .insert table key values
  | other => other

def Transaction.keyed (plan : Plan) (upcoming : UInt64) (phase : Phase)
    (transaction : Transaction) : Transaction where
  operation := transaction.operation
  earlier := transaction.earlier
  deciding := transaction.deciding.keyed (plan.keyName upcoming)
  number? :=
    if phase = .transactions ∧ transaction.operation = .insert then some upcoming else none

theorem Drawn.keyed_unkeyed {before after : Workload} {phase : Phase} {transaction : Transaction}
    (drawn : Drawn before phase transaction after) :
    transaction.unkeyed.keyed before.toPlan before.keySequence.upcoming phase = transaction := by
  cases drawn <;> rfl

theorem Drawn.eq_of_similar {left right after later : Workload} {phase : Phase}
    {transaction other : Transaction} (drawn : Drawn left phase transaction after)
    (otherDrawn : Drawn right phase other later) (plan : left.toPlan = right.toPlan)
    (numbers : left.keySequence = right.keySequence)
    (similar : Workload.Similar transaction other) : transaction = other := by
  have unkeyed : transaction.unkeyed = other.unkeyed := similar
  rw [← drawn.keyed_unkeyed, ← otherDrawn.keyed_unkeyed, plan, numbers, unkeyed]

/-! ## Two workloads side by side -/

structure Beside (first left right : Workload) : Prop where
  reached : Workload.Reached first left
  otherReached : Workload.Reached first right
  keySequence : left.keySequence = right.keySequence

namespace Beside

variable {properties : Properties} {first left right after later : Workload}
variable {transaction other : Transaction} {status otherStatus : Status}

theorem alike (beside : Beside first left right)
    (configured : Workload.Configured properties first)
    (steady : left.frontier = right.frontier ∨ first.requestDistribution = .uniform) :
    left.Alike right := by
  refine ⟨beside.reached.idle_eq.trans beside.otherReached.idle_eq.symm,
    beside.reached.exact configured.exact, beside.otherReached.exact configured.exact, ?_⟩
  rcases steady with level | uniform
  · exact .inl (congrArg Frontier.last level)
  · have clear := configured.clear uniform
    have positive := configured.recordCount_positive
    exact .inr ⟨beside.reached.clear configured.frontier positive clear,
      beside.otherReached.clear configured.frontier positive clear⟩

theorem draw {σ : Type} [WordSource σ] {phase : Phase} {source rest words : σ}
    (beside : Beside first left right) (configured : Workload.Configured properties first)
    (steady : left.frontier = right.frontier ∨ first.requestDistribution = .uniform)
    (drawn : phase.drawing.run (left, source) = .ok (transaction, after, rest))
    (otherDrawn : phase.drawing.run (right, source) = .ok (other, later, words)) :
    transaction = other ∧ rest = words ∧ Beside first after later ∧
      after.frontier = left.frontier ∧ later.frontier = right.frontier := by
  have alike := beside.alike configured steady
  rcases Workload.agree_drawing phase alike drawn with ⟨_, _, agreed, similar, _⟩
  cases otherDrawn.symm.trans agreed
  have made := Workload.drawing_drawn drawn
  have otherMade := Workload.drawing_drawn otherDrawn
  have same := made.eq_of_similar otherMade alike.toPlan beside.keySequence similar
  have numbers : after.keySequence.upcoming = later.keySequence.upcoming := by
    rw [made.upcoming_eq, otherMade.upcoming_eq, same, beside.keySequence]
  refine ⟨same, rfl, ⟨?_, ?_, ?_⟩, made.frontier_eq, otherMade.frontier_eq⟩
  · exact Workload.leads_drawing phase beside.reached drawn
  · exact Workload.leads_drawing phase beside.otherReached otherDrawn
  · exact congrArg Counter.mk numbers

theorem settle (beside : Beside first left right)
    (settled : left.settle transaction status = .ok after)
    (otherSettled : right.settle transaction otherStatus = .ok later) :
    Beside first after later := by
  refine ⟨beside.reached.settle settled, beside.otherReached.settle otherSettled, ?_⟩
  rcases Workload.settle_eq_ok_iff.mp settled with ⟨_, _, rfl⟩
  rcases Workload.settle_eq_ok_iff.mp otherSettled with ⟨_, _, rfl⟩
  exact beside.keySequence

end Beside

theorem Workload.frontier_eq_of_settle {left right after later : Workload}
    {transaction : Transaction} {status otherStatus : Status}
    (level : left.frontier = right.frontier)
    (same : transaction.acknowledged status = transaction.acknowledged otherStatus)
    (settled : left.settle transaction status = .ok after)
    (otherSettled : right.settle transaction otherStatus = .ok later) :
    after.frontier = later.frontier := by
  rcases settle_eq_ok_iff.mp settled with ⟨frontier, acknowledged, rfl⟩
  rcases settle_eq_ok_iff.mp otherSettled with ⟨otherFrontier, otherAcknowledged, rfl⟩
  rw [level, same, otherAcknowledged] at acknowledged
  exact (Except.ok.inj acknowledged).symm

theorem Outcome.Agrees.acknowledged_eq {before after : Workload} {phase : Phase}
    {transaction : Transaction} {outcome other : Outcome} (agrees : outcome.Agrees phase other)
    (drawn : Drawn before phase transaction after) (came : outcome.CameOf transaction)
    (otherCame : other.CameOf transaction) :
    transaction.acknowledged outcome.status = transaction.acknowledged other.status := by
  unfold Transaction.acknowledged
  cases numbered : transaction.number? with
  | none => simp
  | some number =>
      rcases drawn.of_number numbered with ⟨transactions, values, rfl⟩
      rw [agrees transactions came.operation otherCame.operation]

/-! ## Two stores -/

namespace Session

variable {σ S H S' H' : Type} [WordSource σ] [Backend S H] [Backend S' H']
variable {properties : Properties} {first : Workload} {phases : List Phase}
variable {outcomes others : List Outcome}
variable {session after : Session σ H} {world later : World S}
variable {otherSession otherAfter : Session σ H'} {otherWorld otherLater : World S'}

theorem performAll_alike (configured : Workload.Configured properties first)
    (beside : Beside first world.workload otherWorld.workload)
    (words : session.source = otherSession.source)
    (steady : world.workload.frontier = otherWorld.workload.frontier ∧
        AgreeOnInserts phases outcomes others ∨ first.requestDistribution = .uniform)
    (ran : session.performAll phases world = .ok (outcomes, after, later))
    (otherRan : otherSession.performAll phases otherWorld = .ok (others, otherAfter, otherLater)) :
    outcomes.map Outcome.requests = others.map Outcome.requests ∧
      outcomes.map Outcome.operation = others.map Outcome.operation ∧
      after.source = otherAfter.source ∧
      (world.workload.frontier = otherWorld.workload.frontier →
        AgreeOnInserts phases outcomes others →
        later.workload.frontier = otherLater.workload.frontier) := by
  induction phases generalizing session world otherSession otherWorld outcomes others with
  | nil =>
      cases ran
      cases otherRan
      exact ⟨rfl, rfl, words, fun level _ => level⟩
  | cons phase rest induction =>
      rcases bind_eq_ok_iff.mp ran with ⟨⟨outcome, next, middle⟩, performed, ran⟩
      rcases bind_eq_ok_iff.mp ran with ⟨⟨following, _, _⟩, ran, equal⟩
      cases equal
      rcases bind_eq_ok_iff.mp otherRan with
        ⟨⟨other, otherNext, otherMiddle⟩, otherPerformed, otherRan⟩
      rcases bind_eq_ok_iff.mp otherRan with ⟨⟨otherFollowing, _, _⟩, otherRan, equal⟩
      cases equal
      rcases Session.performed performed with ⟨transaction, workload, drawn, came, _, settled⟩
      rcases Session.performed otherPerformed with
        ⟨otherTransaction, otherWorkload, otherDrawn, otherCame, _, otherSettled⟩
      rw [← words] at otherDrawn
      rcases beside.draw configured (steady.imp_left And.left) drawn otherDrawn with
        ⟨rfl, sameWords, besideDrawn, unmoved, otherUnmoved⟩
      have level (before : world.workload.frontier = otherWorld.workload.frontier)
          (agrees : outcome.Agrees phase other) :
          middle.workload.frontier = otherMiddle.workload.frontier :=
        Workload.frontier_eq_of_settle (unmoved.trans (before.trans otherUnmoved.symm))
          (agrees.acknowledged_eq (Workload.drawing_drawn drawn) came otherCame) settled
          otherSettled
      have steadyAfter := steady.imp_left fun ⟨before, agree⟩ =>
        And.intro (level before agree.1) agree.2
      rcases induction (besideDrawn.settle settled otherSettled) sameWords steadyAfter ran
        otherRan with ⟨requests, operations, source, frontier⟩
      refine ⟨?_, ?_, source, fun before agree => frontier (level before agree.1) agree.2⟩
      · rw [List.map_cons, List.map_cons, requests, came.requests, otherCame.requests]
      · rw [List.map_cons, List.map_cons, operations, came.operation, otherCame.operation]

/-- Whatever a worker does, one transaction after the other, two stores that agree on which inserts
among the transactions succeed are asked the same calls, for the same operations, and leave the
worker with the same words and the workload with the same frontier. With even draws, all stores
are asked the same calls. -/
theorem calls_eq_of_agreeing_stores {workload : Workload} {source : σ} {store : S} {handle : H}
    {otherStore : S'} {otherHandle : H'}
    (accepted : Workload.ofProperties properties = .ok first)
    (reached : Workload.Reached first workload)
    (ran : (Session.mk source handle).performAll phases ⟨workload, store⟩ =
      .ok (outcomes, after, later))
    (otherRan : (Session.mk source otherHandle).performAll phases ⟨workload, otherStore⟩ =
      .ok (others, otherAfter, otherLater)) :
    (AgreeOnInserts phases outcomes others →
      outcomes.map Outcome.requests = others.map Outcome.requests ∧
        outcomes.map Outcome.operation = others.map Outcome.operation ∧
        after.source = otherAfter.source ∧
        later.workload.frontier = otherLater.workload.frontier) ∧
      (first.requestDistribution = .uniform →
        outcomes.map Outcome.requests = others.map Outcome.requests ∧
          outcomes.map Outcome.operation = others.map Outcome.operation ∧
          after.source = otherAfter.source) := by
  have configured := Workload.configured_of_ofProperties accepted
  have beside : Beside first (World.mk workload store).workload
      (World.mk workload otherStore).workload := ⟨reached, reached, rfl⟩
  have words : (Session.mk source handle).source = (Session.mk source otherHandle).source := rfl
  constructor
  · intro agree
    rcases performAll_alike configured beside words (.inl ⟨rfl, agree⟩) ran otherRan with
      ⟨requests, operations, words, frontier⟩
    exact ⟨requests, operations, words, frontier rfl agree⟩
  · intro uniform
    rcases performAll_alike configured beside words (.inr uniform) ran otherRan with
      ⟨requests, operations, words, _⟩
    exact ⟨requests, operations, words⟩

end Session

/-! A load, an insert and a read. One store keeps the record, and the other one finds nothing but
lets the insert pass. -/

def Scripted.withoutReads : Scripted := ⟨[.notFound], [], [], [], []⟩

def Session.threeTransactions {S H : Type} [Backend S H] (store : S) :
    Except Crash (List Outcome × Session Script H × World S) :=
  let world := World.mk .ofOnePair store
  (Session.start (Script.ofList [0, 18446744073709551615, 0, 0, 0]) world).performAll
    [.load, .transactions, .transactions] world

theorem Session.calls_eq_of_agreeing_stores_threeTransactions :
    ∃ outcomes after later others otherAfter otherLater,
      Workload.ofProperties Workload.onePair = .ok .ofOnePair ∧
      threeTransactions (Store.ordered ∅) = .ok (outcomes, after, later) ∧
      threeTransactions Scripted.withoutReads = .ok (others, otherAfter, otherLater) ∧
      outcomes.map Outcome.status = [.ok, .ok, .ok] ∧
      others.map Outcome.status = [.ok, .ok, .notFound] ∧
      outcomes.map Outcome.operation = [.insert, .insert, .read] ∧
      outcomes.map Outcome.requests = others.map Outcome.requests ∧
      later.workload.frontier = otherLater.workload.frontier := by
  have computed : (threeTransactions (Store.ordered ∅)).toOption.map
      (fun done => (done.1.map Outcome.status, done.1.map Outcome.operation)) =
        some ([.ok, .ok, .ok], [.insert, .insert, .read]) := by decide +kernel
  have otherComputed : (threeTransactions Scripted.withoutReads).toOption.map
      (fun done => done.1.map Outcome.status) = some [.ok, .ok, .notFound] := by decide +kernel
  rcases Option.map_eq_some_iff.mp computed with ⟨⟨outcomes, after, later⟩, done, equal⟩
  rcases Option.map_eq_some_iff.mp otherComputed with
    ⟨⟨others, otherAfter, otherLater⟩, otherDone, otherEqual⟩
  rcases Prod.mk.inj equal with ⟨statuses, operations⟩
  have ran := toOption_eq_some_iff.mp done
  have otherRan := toOption_eq_some_iff.mp otherDone
  have agree : AgreeOnInserts [.load, .transactions, .transactions] outcomes others := by
    have both : ((threeTransactions (Store.ordered ∅)).toOption.bind fun left =>
        (threeTransactions Scripted.withoutReads).toOption.map fun right =>
          decide (AgreeOnInserts [.load, .transactions, .transactions] left.1 right.1)) =
        some true := by decide +kernel
    rw [done, otherDone] at both
    exact of_decide_eq_true (Option.some.inj both)
  rcases (calls_eq_of_agreeing_stores Workload.ofProperties_onePair .start ran otherRan).1 agree
    with ⟨requests, _, _, frontier⟩
  exact ⟨outcomes, after, later, others, otherAfter, otherLater, Workload.ofProperties_onePair, ran,
    otherRan, statuses, otherEqual, operations, requests, frontier⟩

end StoreBench
