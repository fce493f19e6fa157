import Mathlib.Data.List.Dedup
import Std.Data.TreeSet.Lemmas
import StoreBench.Frontier

namespace StoreBench.Frontier

/-! The frontier against the set of all numbers that were ever acknowledged. The frontier
stands below the least number, from the start on, that is not in the set; the waiting
numbers are those of the set above it. So neither the order of acknowledgements nor
repetitions have an influence on it. -/

def acknowledgeAll (frontier : Frontier) (numbers : List UInt64) : Except Crash Frontier :=
  numbers.foldlM acknowledge frontier

/-- Two frontiers with the same next number and the same numbers waiting. How the waiting
numbers are kept in the tree does not matter. -/
def Same (left right : Frontier) : Prop :=
  left.limit = right.limit ∧ left.waiting.Equiv right.waiting

structure Covers (start : UInt64) (known : UInt64 → Prop) (frontier : Frontier) : Prop where
  start_le : start ≤ frontier.limit.upcoming
  below : ∀ number, start ≤ number → number < frontier.limit.upcoming → known number
  upcoming_unknown : ¬known frontier.limit.upcoming
  mem_waiting : ∀ number,
    number ∈ frontier.waiting ↔ known number ∧ frontier.limit.upcoming < number

/-! ## Words -/

theorem toNat_add_one_of_lt {number upper : UInt64} (less : number < upper) :
    (number + 1).toNat = number.toNat + 1 := by
  have bound := upper.toNat_lt
  rw [UInt64.lt_iff_toNat_lt] at less
  rw [UInt64.toNat_add, UInt64.toNat_one]
  omega

theorem lt_add_one_of_lt {number upper : UInt64} (less : number < upper) :
    number < number + 1 := by
  rw [UInt64.lt_iff_toNat_lt, toNat_add_one_of_lt less]
  exact Nat.lt_succ_self _

theorem add_one_le_of_lt {number upper : UInt64} (less : number < upper) :
    number + 1 ≤ upper := by
  have following := toNat_add_one_of_lt less
  rw [UInt64.lt_iff_toNat_lt] at less
  rw [UInt64.le_iff_toNat_le]
  omega

theorem checkedAdd_one_of_lt {number upper : UInt64} (less : number < upper) :
    checkedAdd number 1 = .ok (number + 1) :=
  checkedAdd_eq_ok_iff.mpr (toNat_add_one_of_lt less)

theorem checkedAdd_one_eq_ok_iff {number following : UInt64} :
    checkedAdd number 1 = .ok following ↔ number < following ∧ following = number + 1 := by
  constructor
  · intro added
    have numeric := checkedAdd_eq_ok_iff.mp added
    rw [UInt64.toNat_one] at numeric
    have room : number < following := by
      rw [UInt64.lt_iff_toNat_lt]
      omega
    exact ⟨room, UInt64.toNat_inj.mp (numeric.trans (toNat_add_one_of_lt room).symm)⟩
  · intro next
    rcases next with ⟨room, rfl⟩
    exact checkedAdd_one_of_lt room

theorem last_add_one (frontier : Frontier) : frontier.last + 1 = frontier.limit.upcoming := by
  simp [last, Counter.last]

/-! ## Moving past waiting numbers -/

variable {next : UInt64} {waiting : Std.TreeSet UInt64}

theorem mem_erase_iff {number : UInt64} :
    number ∈ waiting.erase next ↔ number ≠ next ∧ number ∈ waiting := by
  rw [Std.TreeSet.mem_erase, ne_eq, ne_eq, Std.LawfulEqCmp.compare_eq_iff_eq, eq_comm]

theorem mem_insert_iff {number other : UInt64} :
    other ∈ waiting.insert number ↔ other = number ∨ other ∈ waiting := by
  rw [Std.TreeSet.mem_insert, Std.LawfulEqCmp.compare_eq_iff_eq, eq_comm]

theorem size_erase_of_mem (member : next ∈ waiting) :
    (waiting.erase next).size + 1 = waiting.size := by
  have nonempty : waiting.size ≠ 0 := by
    intro empty
    have isEmpty : waiting.isEmpty := by simp [Std.TreeSet.isEmpty_eq_size_eq_zero, empty]
    exact Std.TreeSet.not_mem_of_isEmpty isEmpty member
  rw [Std.TreeSet.size_erase, if_pos (Std.TreeSet.contains_iff_mem.mpr member)]
  omega

/-- What moving past the waiting numbers leads to: everything from `next` up to the new
next number was waiting, the new next number was not, and what is above it still waits. -/
structure Advanced (next : UInt64) (waiting : Std.TreeSet UInt64) (frontier : Frontier) :
    Prop where
  next_le : next ≤ frontier.limit.upcoming
  below : ∀ number, next ≤ number → number < frontier.limit.upcoming → number ∈ waiting
  upcoming_notMem : frontier.limit.upcoming ∉ waiting
  mem_waiting : ∀ number,
    number ∈ frontier.waiting ↔ number ∈ waiting ∧ frontier.limit.upcoming < number

theorem Advanced.of_notMem (absent : next ∉ waiting)
    (above : ∀ number, number ∈ waiting → next ≤ number) :
    Advanced next waiting ⟨⟨next⟩, waiting⟩ where
  next_le := UInt64.le_refl next
  below number lower upper := absurd upper (UInt64.not_lt.mpr lower)
  upcoming_notMem := absent
  mem_waiting number := by
    constructor
    · intro member
      refine ⟨member, UInt64.lt_of_le_of_ne (above number member) ?_⟩
      intro same
      subst same
      exact absent member
    · exact And.left

theorem Advanced.of_erase {upper : UInt64} {frontier : Frontier} (member : next ∈ waiting)
    (room : next < upper)
    (rest : Advanced (next + 1) (waiting.erase next) frontier) :
    Advanced next waiting frontier := by
  have passed : next < frontier.limit.upcoming :=
    UInt64.lt_of_lt_of_le (lt_add_one_of_lt room) rest.next_le
  refine ⟨UInt64.le_of_lt passed, ?_, ?_, ?_⟩
  · intro number lower upper
    by_cases same : number = next
    · exact same ▸ member
    · have beyond := add_one_le_of_lt (UInt64.lt_of_le_of_ne lower (Ne.symm same))
      exact (mem_erase_iff.mp (rest.below number beyond upper)).2
  · intro inside
    have different : frontier.limit.upcoming ≠ next := fun equal =>
      UInt64.lt_irrefl next (equal ▸ passed)
    exact rest.upcoming_notMem (mem_erase_iff.mpr ⟨different, inside⟩)
  · intro number
    rw [rest.mem_waiting, mem_erase_iff]
    constructor
    · intro member
      rcases member with ⟨⟨_, inside⟩, above⟩
      exact ⟨inside, above⟩
    · intro member
      rcases member with ⟨inside, above⟩
      refine ⟨⟨?_, inside⟩, above⟩
      intro same
      subst same
      exact UInt64.lt_irrefl number (UInt64.lt_trans passed above)

theorem advance_of_notMem {steps : Nat} (absent : next ∉ waiting) :
    advance steps next waiting = .ok ⟨⟨next⟩, waiting⟩ := by
  cases steps with
  | zero => rfl
  | succ steps => rw [advance, if_neg (by simpa [Std.TreeSet.contains_iff_mem] using absent)]

theorem advance_succ_of_mem {steps : Nat} (member : next ∈ waiting) :
    advance (steps + 1) next waiting =
      (checkedAdd next 1).bind fun following => advance steps following (waiting.erase next) := by
  rw [advance, if_pos (Std.TreeSet.contains_iff_mem.mpr member)]
  rfl

theorem advance_advanced {steps : Nat} {frontier : Frontier}
    (enough : waiting.size ≤ steps) (above : ∀ number, number ∈ waiting → next ≤ number)
    (done : advance steps next waiting = .ok frontier) :
    Advanced next waiting frontier := by
  induction steps generalizing next waiting with
  | zero =>
      -- There are as many steps as numbers that wait, so none of these is left.
      have absent : next ∉ waiting := by
        intro member
        have smaller := size_erase_of_mem member
        omega
      cases done
      exact .of_notMem absent above
  | succ steps induction =>
      by_cases member : next ∈ waiting
      · rw [advance_succ_of_mem member] at done
        cases added : checkedAdd next 1 with
        | error crash => simp [added, Except.bind] at done
        | ok following =>
            rcases checkedAdd_one_eq_ok_iff.mp added with ⟨room, rfl⟩
            simp only [added, Except.bind] at done
            have smaller := size_erase_of_mem member
            refine .of_erase member room (induction (by omega) ?_ done)
            intro number inside
            rw [mem_erase_iff] at inside
            exact add_one_le_of_lt
              (UInt64.lt_of_le_of_ne (above number inside.2) (Ne.symm inside.1))
      · rw [advance_of_notMem member] at done
        cases done
        exact .of_notMem member above

theorem advance_succeeds {steps : Nat} {upper : UInt64} (lower : next ≤ upper)
    (gap : upper ∉ waiting) : ∃ frontier, advance steps next waiting = .ok frontier := by
  induction steps generalizing next waiting with
  | zero => exact ⟨_, rfl⟩
  | succ steps induction =>
      by_cases member : next ∈ waiting
      · have room : next < upper := UInt64.lt_of_le_of_ne lower fun equal =>
          gap (equal ▸ member)
        rw [advance_succ_of_mem member, checkedAdd_one_of_lt room]
        exact induction (add_one_le_of_lt room) fun inside => gap (mem_erase_iff.mp inside).2
      · exact ⟨_, advance_of_notMem member⟩

/-! ## Acknowledgements -/

theorem covers_startingAt (start : UInt64) :
    Covers start (fun _ => False) (startingAt start) where
  start_le := UInt64.le_refl start
  below number lower upper := absurd upper (UInt64.not_lt.mpr lower)
  upcoming_unknown := id
  mem_waiting number := by simp [startingAt, Std.TreeSet.not_mem_emptyc]

variable {start : UInt64} {known : UInt64 → Prop} {frontier : Frontier}

theorem Covers.upcoming_le (covers : Covers start known frontier) {number : UInt64}
    (lower : start ≤ number) (unknown : ¬known number) : frontier.limit.upcoming ≤ number := by
  rw [← UInt64.not_lt]
  exact fun upper => unknown (covers.below number lower upper)

theorem acknowledge_of_lt {number : UInt64} (stale : number < frontier.limit.upcoming) :
    frontier.acknowledge number = .ok frontier :=
  if_pos stale

theorem acknowledge_of_not_lt {number : UInt64} (fresh : ¬number < frontier.limit.upcoming) :
    frontier.acknowledge number =
      advance (frontier.waiting.insert number).size frontier.limit.upcoming
        (frontier.waiting.insert number) :=
  if_neg fresh

theorem Covers.insert_stale (covers : Covers start known frontier) {number : UInt64}
    (stale : number < frontier.limit.upcoming) :
    Covers start (fun other => known other ∨ other = number) frontier := by
  refine ⟨covers.start_le, fun other lower upper => .inl (covers.below other lower upper),
    ?_, ?_⟩
  · intro known
    rcases known with reached | rfl
    · exact covers.upcoming_unknown reached
    · exact UInt64.lt_irrefl _ stale
  · intro other
    rw [covers.mem_waiting]
    constructor
    · exact fun ⟨reached, above⟩ => ⟨.inl reached, above⟩
    · intro known
      rcases known with ⟨reached | rfl, above⟩
      · exact ⟨reached, above⟩
      · exact absurd stale (UInt64.not_lt.mpr (UInt64.le_of_lt above))

theorem Covers.upcoming_le_of_mem_insert (covers : Covers start known frontier)
    {number other : UInt64} (fresh : ¬number < frontier.limit.upcoming)
    (member : other ∈ frontier.waiting.insert number) : frontier.limit.upcoming ≤ other := by
  rcases mem_insert_iff.mp member with rfl | member
  · exact UInt64.not_lt.mp fresh
  · exact UInt64.le_of_lt ((covers.mem_waiting other).mp member).2

theorem Covers.insert_fresh (covers : Covers start known frontier) {number : UInt64}
    {after : Frontier}
    (advanced : Advanced frontier.limit.upcoming (frontier.waiting.insert number) after) :
    Covers start (fun other => known other ∨ other = number) after := by
  refine ⟨UInt64.le_trans covers.start_le advanced.next_le, ?_, ?_, ?_⟩
  · intro other lower upper
    by_cases earlier : other < frontier.limit.upcoming
    · exact .inl (covers.below other lower earlier)
    · have member := advanced.below other (UInt64.not_lt.mp earlier) upper
      rcases mem_insert_iff.mp member with same | member
      · exact .inr same
      · exact .inl ((covers.mem_waiting other).mp member).1
  · intro known
    rcases known with reached | same
    -- A known number above the old next one would wait, and be passed as well.
    · by_cases still : frontier.limit.upcoming = after.limit.upcoming
      · exact covers.upcoming_unknown (still ▸ reached)
      · have above := UInt64.lt_of_le_of_ne advanced.next_le still
        have member := (covers.mem_waiting after.limit.upcoming).mpr ⟨reached, above⟩
        exact advanced.upcoming_notMem (mem_insert_iff.mpr (.inr member))
    · exact advanced.upcoming_notMem (mem_insert_iff.mpr (.inl same))
  · intro other
    rw [advanced.mem_waiting, mem_insert_iff, covers.mem_waiting]
    constructor
    · intro known
      rcases known with ⟨same | ⟨reached, _⟩, above⟩
      · exact ⟨.inr same, above⟩
      · exact ⟨.inl reached, above⟩
    · intro known
      rcases known with ⟨reached | same, above⟩
      · exact ⟨.inr ⟨reached, UInt64.lt_of_le_of_lt advanced.next_le above⟩, above⟩
      · exact ⟨.inl same, above⟩

theorem Covers.acknowledge (covers : Covers start known frontier) {number : UInt64}
    {after : Frontier} (done : frontier.acknowledge number = .ok after) :
    Covers start (fun other => known other ∨ other = number) after := by
  by_cases stale : number < frontier.limit.upcoming
  · rw [acknowledge_of_lt stale] at done
    cases done
    exact covers.insert_stale stale
  · rw [acknowledge_of_not_lt stale] at done
    exact covers.insert_fresh (advance_advanced (Nat.le_refl _)
      (fun _ member => covers.upcoming_le_of_mem_insert stale member) done)

theorem Covers.acknowledge_succeeds (covers : Covers start known frontier)
    {number upper : UInt64} (lower : start ≤ upper) (unknown : ¬known upper)
    (different : upper ≠ number) : ∃ after, frontier.acknowledge number = .ok after := by
  by_cases stale : number < frontier.limit.upcoming
  · exact ⟨frontier, acknowledge_of_lt stale⟩
  · rw [acknowledge_of_not_lt stale]
    apply advance_succeeds (covers.upcoming_le lower unknown)
    intro member
    rcases mem_insert_iff.mp member with same | member
    · exact different same
    · exact unknown ((covers.mem_waiting upper).mp member).1

theorem Covers.acknowledgeAll (covers : Covers start known frontier) {numbers : List UInt64}
    {after : Frontier} (done : frontier.acknowledgeAll numbers = .ok after) :
    Covers start (fun number => known number ∨ number ∈ numbers) after := by
  induction numbers generalizing known frontier with
  | nil =>
      cases done
      simpa using covers
  | cons number rest induction =>
      cases first : frontier.acknowledge number with
      | error crash => simp [Frontier.acknowledgeAll, first, bind, Except.bind] at done
      | ok next =>
          simp only [Frontier.acknowledgeAll, List.foldlM_cons, first, bind, Except.bind] at done
          simpa [or_assoc] using induction (covers.acknowledge first) done

theorem Covers.acknowledgeAll_succeeds (covers : Covers start known frontier)
    {numbers : List UInt64} {upper : UInt64} (lower : start ≤ upper) (unknown : ¬known upper)
    (missing : upper ∉ numbers) : ∃ after, frontier.acknowledgeAll numbers = .ok after := by
  induction numbers generalizing known frontier with
  | nil => exact ⟨frontier, rfl⟩
  | cons number rest induction =>
      rw [List.mem_cons, not_or] at missing
      rcases covers.acknowledge_succeeds lower unknown missing.1 with ⟨next, first⟩
      rcases induction (covers.acknowledge first) (by simp [unknown, missing.1]) missing.2 with
        ⟨after, others⟩
      refine ⟨after, ?_⟩
      simpa [Frontier.acknowledgeAll, first, bind, Except.bind] using others

theorem Covers.same {otherKnown : UInt64 → Prop} {other : Frontier}
    (covers : Covers start known frontier) (otherCovers : Covers start otherKnown other)
    (agree : ∀ number, known number ↔ otherKnown number) : frontier.Same other := by
  have upper : frontier.limit.upcoming ≤ other.limit.upcoming :=
    covers.upcoming_le otherCovers.start_le
      fun reached => otherCovers.upcoming_unknown ((agree _).mp reached)
  have lower : other.limit.upcoming ≤ frontier.limit.upcoming :=
    otherCovers.upcoming_le covers.start_le
      fun reached => covers.upcoming_unknown ((agree _).mpr reached)
  have equal : frontier.limit.upcoming = other.limit.upcoming := UInt64.le_antisymm upper lower
  refine ⟨congrArg Counter.mk equal, Std.TreeSet.Equiv.of_forall_mem_iff fun number => ?_⟩
  rw [covers.mem_waiting, otherCovers.mem_waiting, agree, equal]

theorem Covers.pending_eq {numbers : List UInt64}
    (covers : Covers start (· ∈ numbers) frontier) :
    frontier.pending =
      (numbers.filter (fun number => frontier.limit.upcoming < number)).dedup.length := by
  rw [pending, ← Std.TreeSet.length_toList]
  apply List.Perm.length_eq
  rw [List.perm_ext_iff_of_nodup _ (List.nodup_dedup _)]
  · intro number
    rw [Std.TreeSet.mem_toList, covers.mem_waiting, List.mem_dedup, List.mem_filter,
      decide_eq_true_iff]
  · exact Std.TreeSet.distinct_toList.imp fun different equal =>
      different (Std.LawfulEqCmp.compare_eq_iff_eq.mpr equal)

theorem covers_of_acknowledgeAll {numbers : List UInt64}
    (done : (startingAt start).acknowledgeAll numbers = .ok frontier) :
    Covers start (· ∈ numbers) frontier := by
  simpa using (covers_startingAt start).acknowledgeAll done

/-! ## Reach -/

theorem last_toNat (positive : 0 < frontier.limit.upcoming) :
    frontier.last.toNat + 1 = frontier.limit.upcoming.toNat := by
  rw [UInt64.lt_iff_toNat_lt, UInt64.toNat_zero] at positive
  have subtracted := UInt64.toNat_sub_of_le frontier.limit.upcoming 1
    (by rw [UInt64.le_iff_toNat_le, UInt64.toNat_one]; omega)
  rw [UInt64.toNat_one] at subtracted
  have last : frontier.last = frontier.limit.upcoming - 1 := rfl
  rw [last, subtracted]
  omega

theorem le_last_iff (positive : 0 < frontier.limit.upcoming) {number : UInt64} :
    number ≤ frontier.last ↔ number < frontier.limit.upcoming := by
  have numeric := last_toNat positive
  rw [UInt64.le_iff_toNat_le, UInt64.lt_iff_toNat_lt]
  omega

theorem Covers.positive (covers : Covers start known frontier) (startPositive : 0 < start) :
    0 < frontier.limit.upcoming :=
  UInt64.lt_of_lt_of_le startPositive covers.start_le

theorem Covers.known_of_le_last (covers : Covers start known frontier)
    (startPositive : 0 < start) {number : UInt64} (lower : start ≤ number)
    (upper : number ≤ frontier.last) : known number :=
  covers.below number lower ((le_last_iff (covers.positive startPositive)).mp upper)

theorem Covers.last_le {more : UInt64 → Prop} {later : Frontier}
    (covers : Covers start known frontier) (laterCovers : Covers start more later)
    (startPositive : 0 < start) (grown : ∀ number, known number → more number) :
    frontier.last ≤ later.last := by
  have further : frontier.limit.upcoming ≤ later.limit.upcoming :=
    covers.upcoming_le laterCovers.start_le fun reached =>
      laterCovers.upcoming_unknown (grown _ reached)
  rw [le_last_iff (laterCovers.positive startPositive)]
  have reached := (le_last_iff (covers.positive startPositive)).mp (UInt64.le_refl _)
  exact UInt64.lt_of_lt_of_le reached further

/-! ## All acknowledgements -/

/-- The frontier after any acknowledgements stands below the least number, from the start
on, that is missing, and exactly the greater ones wait. Only the set of the acknowledged
numbers counts, so what is known already changes nothing. -/
theorem acknowledgeAll_contiguous (start : UInt64) (numbers : List UInt64)
    (gap : ∃ number, start ≤ number ∧ number ∉ numbers) :
    ∃ frontier, (startingAt start).acknowledgeAll numbers = .ok frontier ∧
      (start ≤ frontier.last + 1 ∧ frontier.last + 1 ∉ numbers ∧
        ∀ number, start ≤ number → number ∉ numbers → frontier.last + 1 ≤ number) ∧
      (∀ number, number ∈ frontier.waiting ↔ number ∈ numbers ∧ frontier.last + 1 < number) ∧
      frontier.pending =
        (numbers.filter (fun number => frontier.last + 1 < number)).dedup.length ∧
      (∀ others, (∀ number, number ∈ others ↔ number ∈ numbers) →
        ∃ other, (startingAt start).acknowledgeAll others = .ok other ∧ other.Same frontier) ∧
      (∀ number, number ∈ numbers ∨ number < frontier.last + 1 →
        ∃ after, frontier.acknowledge number = .ok after ∧ after.Same frontier) := by
  rcases gap with ⟨upper, lower, missing⟩
  rcases (covers_startingAt start).acknowledgeAll_succeeds lower id missing with ⟨frontier, done⟩
  have covers := covers_of_acknowledgeAll done
  refine ⟨frontier, done, ?_⟩
  rw [last_add_one]
  refine ⟨⟨covers.start_le, covers.upcoming_unknown, ?_⟩,
    covers.mem_waiting, covers.pending_eq, ?_, ?_⟩
  · exact fun number above absent => covers.upcoming_le above absent
  · intro others agree
    rcases (covers_startingAt start).acknowledgeAll_succeeds lower id
      (fun member => missing ((agree upper).mp member)) with
      ⟨other, otherDone⟩
    exact ⟨other, otherDone, (covers_of_acknowledgeAll otherDone).same covers agree⟩
  · intro number known
    rcases known with known | stale
    · have different : upper ≠ number := fun equal => missing (equal ▸ known)
      rcases covers.acknowledge_succeeds lower missing different with ⟨after, again⟩
      refine ⟨after, again, (covers.acknowledge again).same covers fun other => ?_⟩
      exact ⟨fun reached => reached.elim id fun same => same ▸ known, .inl⟩
    · exact ⟨frontier, acknowledge_of_lt stale, rfl, Std.TreeSet.Equiv.rfl⟩

/-- With a gap at four, three is the frontier and six waits. -/
theorem acknowledgeAll_contiguous_gap_at_four :
    (∃ number : UInt64, 0 ≤ number ∧ number ∉ [2, 0, 2, 3, 1, 6]) ∧
      ∃ frontier, (startingAt 0).acknowledgeAll [2, 0, 2, 3, 1, 6] = .ok frontier ∧
        frontier.last = 3 ∧ frontier.pending = 1 := by
  have gap : ∃ number : UInt64, 0 ≤ number ∧ number ∉ [2, 0, 2, 3, 1, 6] := ⟨4, by decide⟩
  rcases acknowledgeAll_contiguous 0 [2, 0, 2, 3, 1, 6] gap with
    ⟨frontier, done, ⟨_, missing, least⟩, _, pending, _⟩
  have upper := least 4 (by decide) (by decide)
  have next : frontier.last + 1 = 4 := by
    simp only [UInt64.le_iff_toNat_le, List.mem_cons, ← UInt64.toNat_inj] at upper missing ⊢
    simp at upper missing ⊢
    omega
  have last : frontier.last = 3 := (UInt64.add_left_inj 1).mp next
  refine ⟨gap, frontier, done, last, ?_⟩
  rw [pending, next]
  decide

end StoreBench.Frontier
