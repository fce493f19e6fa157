import Mathlib.Algebra.Order.BigOperators.Group.Finset
import StoreBench.Proofs.Benchmark.Shifts
import StoreBench.Proofs.Interleaving.Remaining

namespace StoreBench

/-! A phase whose workers may fall. The thread that leads a phase waits with its workers until all
of them have their handles, and then for one worker after the other to be gone. If it comes to one
that has fallen, it falls as well. So a worker that falls later than the common wait is always
noticed, and one that falls earlier never is: the others wait for it for ever. -/

/-- Where the code of a store may give up on a worker. Calls are numbered from zero. -/
inductive Breach where
  | handle
  | start
  | call (number : Nat)
  | cleanup

def Breach.IsEarly : Breach → Prop
  | .handle | .start => True
  | .call _ | .cleanup => False

abbrev Placement (ι : Type) := ι → Option (Breach × Crash)

def Placement.Early {ι : Type} (placement : Placement ι) (name : ι) : Prop :=
  ∃ breach crash, placement name = some (breach, crash) ∧ breach.IsEarly

/-- What the thread that leads a phase is doing: it waits for all workers to have their handles,
and then for the worker at a position to be gone, until it returns the report or raises the crash
of a fallen worker. -/
inductive Lead where
  | waiting
  | joining (position : Nat)
  | returned
  | raised (crash : Crash)

def Lead.remaining (threads : Nat) : Lead → Nat
  | .waiting => threads + 2
  | .joining position => threads + 1 - position
  | .returned | .raised _ => 0

def Lead.IsDone : Lead → Prop
  | .waiting | .joining _ => False
  | .returned | .raised _ => True

structure Muster (threads : Nat) (σ S H : Type) where
  shift : Shift (Fin threads) σ S H
  fallen : Fin threads → Option Crash
  lead : Lead

/-! ## Moves of single workers -/

def Stage.remaining : Stage → Nat
  | .spawned => 3
  | .waiting => 2
  | .working => 1
  | .gone => 0

namespace Shift

variable {ι σ S H : Type} [DecidableEq ι]

def remainingOf (shift : Shift ι σ S H) (name : ι) : Nat :=
  (shift.post name).stage.remaining + (shift.crew.worker name).remaining

def begun (shift : Shift ι σ S H) : Shift ι σ S H :=
  { shift with post := fun name => { shift.post name with stage := .working } }

def Reaches (shift : Shift ι σ S H) (name : ι) : Breach → Prop
  | .handle | .start => (shift.post name).stage = .spawned
  | .call number => (shift.post name).stage = .working ∧
      (shift.post name).calls.length = number + 1 ∧ ∃ phase transaction earlier,
        (shift.crew.worker name).activity = .asking phase transaction earlier
  | .cleanup => (shift.post name).stage = .working ∧ (shift.crew.worker name).isDone

variable [WordSource σ] [Backend S H]

inductive MoveBy (shift : Shift ι σ S H) (name : ι) :
    Option (Event ι) → Shift ι σ S H → Prop where
  | open (spawned : (shift.post name).stage = .spawned) :
      MoveBy shift name none
        (shift.place name { (shift.post name).sees .start with stage := .waiting })
  | work {event : Event ι} {next : Crew ι σ S H} (elapsed : Nat) (mover : event.worker = name)
      (working : (shift.post name).stage = .working) (step : Step shift.crew event next) :
      MoveBy shift name (some event)
        ⟨next, Function.update shift.post name ((shift.post name).after elapsed event)⟩
  | close (working : (shift.post name).stage = .working)
      (isDone : (shift.crew.worker name).isDone) :
      MoveBy shift name none
        (shift.place name { (shift.post name).sees .cleanup with stage := .gone })

theorem move_iff {shift next : Shift ι σ S H} {event? : Option (Event ι)} :
    Move shift event? next ↔
      (event? = none ∧ (∀ name, (shift.post name).stage = .waiting) ∧ next = shift.begun) ∨
        ∃ name, MoveBy shift name event? next := by
  constructor
  · intro move
    cases move with
    | «open» spawned => exact .inr ⟨_, .open spawned⟩
    | «begin» waiting => exact .inl ⟨rfl, waiting, rfl⟩
    | work elapsed working step => exact .inr ⟨_, .work elapsed rfl working step⟩
    | close working isDone => exact .inr ⟨_, .close working isDone⟩
  · rintro (⟨rfl, waiting, rfl⟩ | ⟨name, move⟩)
    · exact .begin waiting
    · cases move with
      | «open» spawned => exact .open spawned
      | work elapsed mover working step =>
          subst mover
          exact .work elapsed working step
      | close working isDone => exact .close working isDone

theorem MoveBy.stages {shift next : Shift ι σ S H} {name : ι} {event? : Option (Event ι)}
    (move : MoveBy shift name event? next) :
    ((shift.post name).stage = .spawned ∧ (next.post name).stage = .waiting ∨
      (shift.post name).stage = .working ∧
        ((next.post name).stage = .working ∨ (next.post name).stage = .gone)) ∧
    ∀ other, other ≠ name → (next.post other).stage = (shift.post other).stage := by
  cases move with
  | «open» spawned => exact ⟨.inl ⟨spawned, by simp [place]⟩, fun _ other => by simp [place, other]⟩
  | work elapsed mover working step =>
      exact ⟨.inr ⟨working, .inl (by simp [working])⟩, fun _ other => by simp [other]⟩
  | close working isDone =>
      exact ⟨.inr ⟨working, .inr (by simp [place])⟩, fun _ other => by simp [place, other]⟩

theorem MoveBy.remainingOf {shift next : Shift ι σ S H} {name : ι} {event? : Option (Event ι)}
    (move : MoveBy shift name event? next) :
    next.remainingOf name < shift.remainingOf name ∧
      ∀ other, other ≠ name → next.remainingOf other = shift.remainingOf other := by
  cases move with
  | «open» spawned =>
      exact ⟨by simp [Shift.remainingOf, place, spawned, Stage.remaining],
        fun _ other => by simp [Shift.remainingOf, place, other]⟩
  | work elapsed mover working step =>
      subst mover
      refine ⟨by simpa [Shift.remainingOf] using step.remaining_lt, fun other different => ?_⟩
      simp [Shift.remainingOf, different, step.worker_of_other different.symm]
  | close working isDone =>
      exact ⟨by simp [Shift.remainingOf, place, working, Stage.remaining],
        fun _ other => by simp [Shift.remainingOf, place, other]⟩

theorem MoveBy.gone {shift next : Shift ι σ S H} {name other : ι} {event? : Option (Event ι)}
    (move : MoveBy shift name event? next) (gone : (shift.post other).stage = .gone) :
    (next.post other).stage = .gone := by
  rcases move.stages with ⟨mover, others⟩
  have different : other ≠ name := by
    rintro rfl
    rcases mover with ⟨spawned, _⟩ | ⟨working, _⟩
    · exact absurd (gone.symm.trans spawned) nofun
    · exact absurd (gone.symm.trans working) nofun
  exact (others other different).trans gone

end Shift

/-! ## Workers and the thread that leads them -/

namespace Muster

variable {threads : Nat} {σ S H : Type}

def opened [Backend S H] (latency : Bool) (phase : Phase) (threads total : Nat) (sources : Nat → σ)
    (world : World S) : Except Crash (Muster threads σ S H) := do
  Phase.checkRoom threads
  return ⟨.opened latency phase threads total sources world, fun _ => none, .waiting⟩

variable {first muster next : Muster threads σ S H}

structure Orderly (muster : Muster threads σ S H) : Prop where
  before : muster.lead = .waiting → ∀ name,
    (muster.shift.post name).stage = .spawned ∨ (muster.shift.post name).stage = .waiting
  after : muster.lead ≠ .waiting → ∀ name,
    (muster.shift.post name).stage = .working ∨ (muster.shift.post name).stage = .gone
  joined : ∀ position, muster.lead = .joining position → position ≤ threads ∧
    ∀ name : Fin threads, name < position → (muster.shift.post name).stage = .gone
  returned : muster.lead = .returned → muster.shift.Over
  raised : ∀ crash, muster.lead = .raised crash → ∃ name, muster.fallen name = some crash

theorem orderly_of_opened [Backend S H] {latency : Bool} {phase : Phase} {total : Nat}
    {sources : Nat → σ} {world : World S}
    (made : opened latency phase threads total sources world = .ok first) :
    first.Orderly := by
  rcases bind_eq_ok_iff.mp made with ⟨_, _, equal⟩
  cases equal
  exact ⟨fun _ _ => .inl rfl, fun led => absurd rfl led, nofun, nofun, nofun⟩

def remainingOf (muster : Muster threads σ S H) (name : Fin threads) : Nat :=
  if (muster.fallen name).isSome then 0 else muster.shift.remainingOf name

def remaining (muster : Muster threads σ S H) : Nat :=
  ∑ name, muster.remainingOf name + muster.lead.remaining threads

theorem remaining_lt_of_worker (name : Fin threads) (same : next.lead = muster.lead)
    (fewer : next.remainingOf name < muster.remainingOf name)
    (others : ∀ other, other ≠ name → next.remainingOf other = muster.remainingOf other) :
    next.remaining < muster.remaining := by
  unfold remaining
  rw [same, Nat.add_lt_add_iff_right]
  apply Finset.sum_lt_sum
  · intro other _
    by_cases equal : other = name
    · exact equal ▸ le_of_lt fewer
    · exact le_of_eq (others other equal)
  · exact ⟨name, Finset.mem_univ name, fewer⟩

theorem remaining_lt_of_lead (same : next.remainingOf ≤ muster.remainingOf)
    (fewer : next.lead.remaining threads < muster.lead.remaining threads) :
    next.remaining < muster.remaining :=
  Nat.add_lt_add_of_le_of_lt (Finset.sum_le_sum fun name _ => same name) fewer

/-! ## Steps -/

variable [WordSource σ]

/-- A worker falls where the store gives up on it, and where drawing or settling a transaction
crashes. -/
inductive Falls (placement : Placement (Fin threads)) (shift : Shift (Fin threads) σ S H)
    (name : Fin threads) : Crash → Prop where
  | breach {breach : Breach} {crash : Crash} (placed : placement name = some (breach, crash))
      (reaches : shift.Reaches name breach) : Falls placement shift name crash
  | draw {session : Session σ H} {phase : Phase} {ahead : List Phase} {crash : Crash}
      (working : (shift.post name).stage = .working)
      (ready : shift.crew.worker name = ⟨session, phase :: ahead, .ready⟩)
      (crashed : session.draw phase.drawing shift.crew.world = .error crash) :
      Falls placement shift name crash
  | settle {session : Session σ H} {phase : Phase} {ahead : List Phase}
      {transaction : Transaction} {status : Status} {crash : Crash}
      (working : (shift.post name).stage = .working)
      (answered : shift.crew.worker name = ⟨session, ahead, .answered phase transaction status⟩)
      (crashed : shift.crew.world.workload.settle transaction status = .error crash) :
      Falls placement shift name crash

theorem Falls.stage {placement : Placement (Fin threads)} {shift : Shift (Fin threads) σ S H}
    {name : Fin threads} {crash : Crash} (falls : Falls placement shift name crash) :
    (shift.post name).stage = .spawned ∨ (shift.post name).stage = .working := by
  cases falls with
  | @breach breach _ placed reaches =>
      cases breach with
      | handle | start => exact .inl reaches
      | call | cleanup => exact .inr reaches.1
  | draw working => exact .inr working
  | settle working => exact .inr working

def Stands (placement : Placement (Fin threads)) (muster : Muster threads σ S H)
    (name : Fin threads) : Prop :=
  muster.fallen name = none ∧
    ∀ breach crash, placement name = some (breach, crash) → ¬muster.shift.Reaches name breach

variable [Backend S H]

inductive Step (placement : Placement (Fin threads)) (muster : Muster threads σ S H) :
    Muster threads σ S H → Prop where
  | move {name : Fin threads} {event? : Option (Event (Fin threads))}
      {shift : Shift (Fin threads) σ S H} (stands : muster.Stands placement name)
      (moved : muster.shift.MoveBy name event? shift) :
      Step placement muster { muster with shift }
  | fall {name : Fin threads} {crash : Crash} (standing : muster.fallen name = none)
      (falls : Falls placement muster.shift name crash) :
      Step placement muster
        { muster with fallen := Function.update muster.fallen name (some crash) }
  | begin (leads : muster.lead = .waiting)
      (waiting : ∀ name, (muster.shift.post name).stage = .waiting) :
      Step placement muster { muster with shift := muster.shift.begun, lead := .joining 0 }
  | join {name : Fin threads} (leads : muster.lead = .joining name)
      (gone : (muster.shift.post name).stage = .gone) :
      Step placement muster { muster with lead := .joining (name + 1) }
  | raise {name : Fin threads} {crash : Crash} (leads : muster.lead = .joining name)
      (fell : muster.fallen name = some crash) :
      Step placement muster { muster with lead := .raised crash }
  | return (leads : muster.lead = .joining threads) :
      Step placement muster { muster with lead := .returned }

inductive Course (placement : Placement (Fin threads)) (first : Muster threads σ S H) :
    Muster threads σ S H → Prop where
  | start : Course placement first first
  | step {middle last : Muster threads σ S H} (earlier : Course placement first middle)
      (next : Step placement middle last) : Course placement first last

/-- The phase has come to no end, and nothing can happen any more. -/
def Stuck (placement : Placement (Fin threads)) (muster : Muster threads σ S H) : Prop :=
  ¬muster.lead.IsDone ∧ ∀ next, ¬Step placement muster next

variable {placement : Placement (Fin threads)}

theorem Course.append {later : Muster threads σ S H} (course : Course placement first muster)
    (rest : Course placement muster later) : Course placement first later := by
  induction rest with
  | start => exact course
  | step earlier next induction => exact induction.step next

/-- What the workers do is a course of the phase in which they do not fall. -/
theorem Course.shift (course : Course placement first muster) :
    ∃ history, Shift.Course first.shift history muster.shift := by
  induction course with
  | start => exact ⟨[], .start⟩
  | step earlier next induction =>
      rcases induction with ⟨history, shifts⟩
      cases next with
      | move stands moved => exact ⟨_, shifts.move (Shift.move_iff.mpr (.inr ⟨_, moved⟩))⟩
      | «begin» leads waiting => exact ⟨_, shifts.move (.begin waiting)⟩
      | fall | join | raise | «return» => exact ⟨history, shifts⟩

theorem Step.orderly (step : Step placement muster next) (orderly : muster.Orderly) :
    next.Orderly := by
  cases step with
  | @move mover event? shift stands moved =>
      rcases moved.stages with ⟨stage, others⟩
      refine ⟨fun leads name => ?_, fun led name => ?_, fun position leads => ?_,
        fun leads name => moved.gone (orderly.returned leads name), orderly.raised⟩
      · by_cases same : name = mover
        · subst same
          rcases stage with ⟨_, waiting⟩ | ⟨working, _⟩
          · exact .inr waiting
          · have early := orderly.before leads name
            simp [working] at early
        · exact others name same ▸ orderly.before leads name
      · by_cases same : name = mover
        · subst same
          rcases stage with ⟨spawned, _⟩ | ⟨_, later⟩
          · have late := orderly.after led name
            simp [spawned] at late
          · exact later
        · exact others name same ▸ orderly.after led name
      · rcases orderly.joined position leads with ⟨most, gone⟩
        exact ⟨most, fun name earlier => moved.gone (gone name earlier)⟩
  | @fall name crash standing falls =>
      refine ⟨orderly.before, orderly.after, orderly.joined, orderly.returned, ?_⟩
      intro raised leads
      rcases orderly.raised raised leads with ⟨other, fell⟩
      have different : other ≠ name := by
        rintro rfl
        exact absurd (standing.symm.trans fell) nofun
      exact ⟨other, (Function.update_of_ne different _ _).trans fell⟩
  | «begin» leads waiting =>
      refine ⟨nofun, fun _ _ => .inl rfl, ?_, nofun, nofun⟩
      rintro _ ⟨⟩
      exact ⟨Nat.zero_le _, nofun⟩
  | @join name leads gone =>
      refine ⟨nofun, fun _ => orderly.after (by simp [leads]), ?_, nofun, nofun⟩
      rintro _ ⟨⟩
      refine ⟨name.isLt, fun other below => ?_⟩
      rcases Nat.lt_succ_iff_lt_or_eq.mp below with earlier | last
      · exact (orderly.joined name leads).2 other earlier
      · exact Fin.ext last ▸ gone
  | @raise name crash leads fell =>
      refine ⟨nofun, fun _ => orderly.after (by simp [leads]), nofun, nofun, ?_⟩
      rintro _ ⟨⟩
      exact ⟨name, fell⟩
  | «return» leads =>
      exact ⟨nofun, fun _ => orderly.after (by simp [leads]), nofun,
        fun _ name => (orderly.joined threads leads).2 name name.isLt, nofun⟩

theorem Course.orderly (course : Course placement first muster) (orderly : first.Orderly) :
    muster.Orderly := by
  induction course with
  | start => exact orderly
  | step earlier next induction => exact next.orderly induction

/-- A report is returned when all workers are gone, and they have done nothing but their work. A
crash is raised only if a worker has fallen with it. -/
theorem Course.ends {latency : Bool} {phase : Phase} {total : Nat} {sources : Nat → σ}
    {world : World S} (made : opened latency phase threads total sources world = .ok first)
    (course : Course placement first muster) :
    (muster.lead = .returned → muster.shift.Over ∧ ∃ history,
      Shift.Course (.opened latency phase threads total sources world) history muster.shift) ∧
    ∀ crash, muster.lead = .raised crash → ∃ name, muster.fallen name = some crash := by
  have orderly := course.orderly (orderly_of_opened made)
  rcases bind_eq_ok_iff.mp made with ⟨_, _, equal⟩
  cases equal
  exact ⟨fun leads => ⟨orderly.returned leads, course.shift⟩, orderly.raised⟩

/-! ## The end of all steps -/

theorem Step.remaining_lt (step : Step placement muster next) :
    next.remaining < muster.remaining := by
  cases step with
  | @move mover event? shift stands moved =>
      rcases moved.remainingOf with ⟨fewer, others⟩
      refine remaining_lt_of_worker mover rfl ?_ fun other different => ?_
      · simpa [remainingOf, stands.1] using fewer
      · simp [remainingOf, others other different]
  | @fall faller crash standing falls =>
      refine remaining_lt_of_worker faller rfl ?_ fun other different => ?_
      · rcases falls.stage with stage | stage <;>
          simp [remainingOf, standing, Shift.remainingOf, stage, Stage.remaining]
      · simp [remainingOf, different]
  | «begin» leads waiting =>
      apply remaining_lt_of_lead
      · intro name
        by_cases fell : (muster.fallen name).isSome
        · simp [remainingOf, fell]
        · simp [remainingOf, fell, Shift.remainingOf, Shift.begun, waiting name, Stage.remaining]
      · simp [leads, Lead.remaining]
  | @join name leads gone =>
      apply remaining_lt_of_lead
      · exact le_rfl
      · simp only [leads, Lead.remaining]
        omega
  | @raise name crash leads fell =>
      apply remaining_lt_of_lead
      · exact le_rfl
      · simp only [leads, Lead.remaining]
        omega
  | «return» leads =>
      apply remaining_lt_of_lead
      · exact le_rfl
      · simp [leads, Lead.remaining]

theorem wellFounded_step (placement : Placement (Fin threads)) :
    WellFounded fun next muster : Muster threads σ S H => Step placement muster next :=
  Subrelation.wf Step.remaining_lt (measure remaining).wf

theorem exists_end (placement : Placement (Fin threads)) (muster : Muster threads σ S H) :
    ∃ last, Course placement muster last ∧ ∀ next, ¬Step placement last next := by
  have wellFounded : WellFounded fun next muster : Muster threads σ S H =>
      Step placement muster next := wellFounded_step placement
  induction muster using wellFounded.induction with
  | _ muster induction =>
      by_cases ends : ∀ next, ¬Step placement muster next
      · exact ⟨muster, .start, ends⟩
      · rcases not_forall_not.mp ends with ⟨next, step⟩
        rcases induction next step with ⟨last, course, ends⟩
        exact ⟨last, (Course.start.step step).append course, ends⟩

/-! ## Workers that work -/

theorem exists_step_of_working {name : Fin threads} (standing : muster.fallen name = none)
    (working : (muster.shift.post name).stage = .working) :
    ∃ next, Step placement muster next := by
  by_cases stands : muster.Stands placement name
  · have moves {event? : Option (Event (Fin threads))} {shift : Shift (Fin threads) σ S H}
        (moved : muster.shift.MoveBy name event? shift) : ∃ next, Step placement muster next :=
      ⟨_, .move stands moved⟩
    cases at? : muster.shift.crew.worker name with
    | mk session ahead activity =>
        cases activity with
        | ready =>
            cases ahead with
            | nil => exact moves (.close working (Worker.isDone_iff.mpr (by simp [at?])))
            | cons phase ahead =>
                cases drawn : session.draw phase.drawing muster.shift.crew.world with
                | error crash => exact ⟨_, .fall standing (.draw working at? drawn)⟩
                | ok outcome => exact moves (.work 0 rfl working (.draw at? drawn))
        | asking phase transaction earlier =>
            cases earlier with
            | nil => exact moves (.work 0 rfl working (.askDeciding at? rfl))
            | cons request rest => exact moves (.work 0 rfl working (.askEarlier at? rfl))
        | answered phase transaction status =>
            cases settled : muster.shift.crew.world.workload.settle transaction status with
            | error crash => exact ⟨_, .fall standing (.settle working at? settled)⟩
            | ok workload => exact moves (.work 0 rfl working (.settle at? settled))
  · have reached : ∃ breach crash, placement name = some (breach, crash) ∧
        muster.shift.Reaches name breach := by
      simpa [Stands, standing] using stands
    rcases reached with ⟨breach, crash, placed, reaches⟩
    exact ⟨_, .fall standing (.breach placed reaches)⟩

/-! ## Late falls -/

theorem Step.fallen_working (never : ∀ name, ¬placement.Early name)
    (step : Step placement muster next)
    (fallen : ∀ name, muster.fallen name ≠ none → (muster.shift.post name).stage = .working) :
    ∀ name, next.fallen name ≠ none → (next.shift.post name).stage = .working := by
  cases step with
  | @move mover event? shift stands moved =>
      intro name fell
      have different : name ≠ mover := by
        rintro rfl
        exact fell stands.1
      exact (moved.stages.2 name different).trans (fallen name fell)
  | @fall faller crash standing falls =>
      intro name fell
      by_cases same : name = faller
      · subst same
        cases falls with
        | @breach breach _ placed reaches =>
            have late : ¬breach.IsEarly := fun early => never name ⟨_, _, placed, early⟩
            cases breach with
            | handle | start => exact absurd trivial late
            | call number => exact reaches.1
            | cleanup => exact reaches.1
        | draw working => exact working
        | settle working => exact working
      · exact fallen name (by simpa [same] using fell)
  | «begin» => exact fun _ _ => rfl
  | join | raise | «return» => exact fallen

theorem Course.fallen_working (never : ∀ name, ¬placement.Early name)
    (course : Course placement first muster) (standing : ∀ name, first.fallen name = none) :
    ∀ name, muster.fallen name ≠ none → (muster.shift.post name).stage = .working := by
  induction course with
  | start => exact fun name fell => absurd (standing name) fell
  | step earlier next induction => exact next.fallen_working never induction

theorem not_stuck (never : ∀ name, ¬placement.Early name) (orderly : muster.Orderly)
    (fallen : ∀ name, muster.fallen name ≠ none → (muster.shift.post name).stage = .working) :
    ¬muster.Stuck placement := by
  rintro ⟨underway, ends⟩
  suffices moves : ∃ next, Step placement muster next from moves.elim ends
  cases leads : muster.lead with
  | returned | raised => simp [leads, Lead.IsDone] at underway
  | waiting =>
      by_cases all : ∀ name, (muster.shift.post name).stage = .waiting
      · exact ⟨_, .begin leads all⟩
      · rcases not_forall.mp all with ⟨name, missing⟩
        have spawned := (orderly.before leads name).resolve_right missing
        have standing : muster.fallen name = none := by
          by_contra fell
          exact absurd (spawned.symm.trans (fallen name fell)) nofun
        refine ⟨_, .move ⟨standing, fun breach crash placed reaches => ?_⟩ (.open spawned)⟩
        cases breach with
        | handle | start => exact never name ⟨_, _, placed, trivial⟩
        | call number => exact absurd (spawned.symm.trans reaches.1) nofun
        | cleanup => exact absurd (spawned.symm.trans reaches.1) nofun
  | joining position =>
      rcases Nat.lt_or_eq_of_le (orderly.joined position leads).1 with inside | rfl
      · rcases orderly.after (by simp [leads]) ⟨position, inside⟩ with working | gone
        · cases fell : muster.fallen ⟨position, inside⟩ with
          | none => exact exists_step_of_working fell working
          | some crash => exact ⟨_, .raise leads fell⟩
        · exact ⟨_, .join leads gone⟩
      · exact ⟨_, .return leads⟩

/-! ## Early falls -/

theorem Step.keeps_waiting {name : Fin threads} (early : placement.Early name)
    (step : Step placement muster next) (leads : muster.lead = .waiting)
    (spawned : (muster.shift.post name).stage = .spawned) :
    next.lead = .waiting ∧ (next.shift.post name).stage = .spawned := by
  cases step with
  | @move mover event? shift stands moved =>
      have different : name ≠ mover := by
        rintro rfl
        rcases early with ⟨breach, crash, placed, early⟩
        cases breach with
        | handle | start => exact stands.2 _ _ placed spawned
        | call | cleanup => exact early
      exact ⟨leads, (moved.stages.2 name different).trans spawned⟩
  | fall => exact ⟨leads, spawned⟩
  | «begin» leads waiting => exact absurd (spawned.symm.trans (waiting name)) nofun
  | join later | raise later | «return» later => exact absurd (leads.symm.trans later) nofun

theorem Course.keeps_waiting {name : Fin threads} (early : placement.Early name)
    (course : Course placement first muster) (leads : first.lead = .waiting)
    (spawned : (first.shift.post name).stage = .spawned) :
    muster.lead = .waiting ∧ (muster.shift.post name).stage = .spawned := by
  induction course with
  | start => exact ⟨leads, spawned⟩
  | step earlier next induction => exact next.keeps_waiting early induction.1 induction.2

/-! ## Phases -/

section Phases

variable {latency : Bool} {phase : Phase} {total : Nat} {sources : Nat → σ} {world : World S}

/-- After an early fall, nothing but falls and waits of others is left to happen. -/
theorem Course.stuck_of_early {name : Fin threads}
    (made : opened latency phase threads total sources world = .ok first)
    (early : placement.Early name) (course : Course placement first muster) :
    muster.lead = .waiting ∧ ∃ later, Course placement muster later ∧ later.Stuck placement := by
  rcases bind_eq_ok_iff.mp made with ⟨_, _, equal⟩
  cases equal
  rcases course.keeps_waiting early rfl rfl with ⟨leads, spawned⟩
  rcases exists_end placement muster with ⟨later, rest, ends⟩
  refine ⟨leads, later, rest, ?_, ends⟩
  rw [(rest.keeps_waiting early leads spawned).1]
  exact id

theorem Course.not_stuck_of_late
    (made : opened latency phase threads total sources world = .ok first)
    (never : ∀ name, ¬placement.Early name) (course : Course placement first muster) :
    ¬muster.Stuck placement := by
  have orderly := course.orderly (orderly_of_opened made)
  rcases bind_eq_ok_iff.mp made with ⟨_, _, equal⟩
  cases equal
  exact not_stuck never orderly (course.fallen_working never fun _ => rfl)

theorem Course.exists_done
    (made : opened latency phase threads total sources world = .ok first)
    (never : ∀ name, ¬placement.Early name) (course : Course placement first muster) :
    ∃ last, Course placement muster last ∧ last.lead.IsDone := by
  rcases exists_end placement muster with ⟨last, rest, ends⟩
  refine ⟨last, rest, ?_⟩
  by_contra underway
  exact (course.append rest).not_stuck_of_late made never ⟨underway, ends⟩

/-- A phase for which there is room never gets stuck if the store gives up on no worker before
the common wait. If it does, the thread that leads the phase waits for ever. -/
theorem never_stuck_iff :
    ((∃ first, opened latency phase threads total sources world = .ok first ∧
        ∀ muster, Course placement first muster → ¬muster.Stuck placement) ↔
      Phase.checkRoom threads = .ok () ∧ ∀ name, ¬placement.Early name) ∧
    ∀ first, opened latency phase threads total sources world = .ok first →
      ∀ name, placement.Early name → ∀ muster, Course placement first muster →
        muster.lead = .waiting ∧
          ∃ later, Course placement muster later ∧ later.Stuck placement := by
  refine ⟨⟨?_, ?_⟩, fun first made name early muster course => course.stuck_of_early made early⟩
  · rintro ⟨first, made, moves⟩
    rcases bind_eq_ok_iff.mp made with ⟨_, room, _⟩
    refine ⟨room, fun name early => ?_⟩
    rcases (Course.start.stuck_of_early made early).2 with ⟨later, course, stuck⟩
    exact moves later course stuck
  · rintro ⟨room, never⟩
    have made : opened latency phase threads total sources world = .ok _ :=
      bind_eq_ok_iff.mpr ⟨(), room, rfl⟩
    exact ⟨_, made, fun muster course => course.not_stuck_of_late made never⟩

end Phases

def firstRefused : Placement (Fin 2) := fun name =>
  if name = 0 then some (.handle, .task "no handle") else none

theorem not_every_fall_noticed :
    ¬∀ placement : Placement (Fin 2), ∃ first, opened false .transactions 2 2
        (fun _ _ => 0 : Nat → Nat → UInt64) ⟨Workload.ofOnePair, Store.null⟩ = .ok first ∧
      ∀ muster, Course placement first muster → ¬muster.Stuck placement := by
  intro always
  rcases always firstRefused with ⟨first, made, moves⟩
  have early : firstRefused.Early 0 := ⟨.handle, .task "no handle", rfl, trivial⟩
  rcases (Course.start.stuck_of_early made early).2 with ⟨later, course, stuck⟩
  exact moves later course stuck

end Muster
end StoreBench
