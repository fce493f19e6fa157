import StoreBench.Workload.Basic

namespace StoreBench

/-! What the draws from a choice never change. A choice remembers the value drawn last,
and a Zipfian one the sum for the number of items asked for last. Without these traces it
is called bare; a draw leaves the bare choice as it was. -/

/-! ## Chains of steps that may fail -/

theorem bind_eq_ok_iff {ε α β : Type} {first : Except ε α} {next : α → Except ε β}
    {result : β} :
    (first >>= next) = .ok result ↔ ∃ value, first = .ok value ∧ next value = .ok result := by
  cases first with
  | error fault => simp [bind, Except.bind]
  | ok value => simp [bind, Except.bind]

theorem bind_eq_error_iff {ε α β : Type} {first : Except ε α} {next : α → Except ε β}
    {fault : ε} :
    (first >>= next) = .error fault ↔
      first = .error fault ∨ ∃ value, first = .ok value ∧ next value = .error fault := by
  cases first with
  | error other => simp [bind, Except.bind]
  | ok value => simp [bind, Except.bind]

@[simp] theorem pure_eq_ok_iff {ε α : Type} {value result : α} :
    (pure value : Except ε α) = .ok result ↔ value = result := by
  simp [pure, Except.pure]

theorem toOption_eq_some_iff {ε α : Type} {result : Except ε α} {value : α} :
    result.toOption = some value ↔ result = .ok value := by
  cases result <;> simp [Except.toOption]

/-! ## Choices -/

variable {σ : Type} [WordSource σ]

namespace Uniform

def bare (uniform : Uniform) : Uniform := { uniform with last := uniform.lower }

@[simp] theorem bare_draw (uniform : Uniform) (source : σ) :
    (uniform.draw source).2.1.bare = uniform.bare := rfl

end Uniform

namespace Zipfian

def bare (zipfian : Zipfian) : Zipfian :=
  { zipfian with zetaItems := 0, zetaN := 0, eta := 0, last := 0 }

@[simp] theorem bare_resize (zipfian : Zipfian) (items : UInt64) :
    (zipfian.resize items).bare = zipfian.bare := by
  unfold resize
  split
  · rfl
  · split <;> rfl

theorem drawAmong_eq_ok_iff {zipfian after : Zipfian} {items value : UInt64}
    {source rest : σ} :
    zipfian.drawAmong items source = .ok (value, after, rest) ↔
      supported items ∧
      (zipfian.resize items).select items (drawFraction source).1 = .ok value ∧
      after = { zipfian.resize items with last := value } ∧ rest = (drawFraction source).2 := by
  by_cases support : supported items
  · cases selected : (zipfian.resize items).select items (drawFraction source).1 with
    | error crash => simp [drawAmong, support, selected, bind, Except.bind]
    | ok chosen =>
        simp only [drawAmong, support, selected, bind, Except.bind, pure, Except.pure,
          Bool.not_true, Bool.false_eq_true, if_false, Except.ok.injEq, Prod.mk.injEq, true_and]
        constructor
        · intro same
          rcases same with ⟨rfl, rfl, rfl⟩
          exact ⟨rfl, rfl, rfl⟩
        · intro same
          rcases same with ⟨rfl, rfl, rfl⟩
          exact ⟨rfl, rfl, rfl⟩
  · simp [drawAmong, support, bind, Except.bind, throw, throwThe, MonadExceptOf.throw]

/-- A choice brought to the items that it was made for. Draws among them leave it so, with
another number drawn last. -/
def settled (zipfian : Zipfian) : Zipfian := { zipfian.resize zipfian.items with last := 0 }

theorem resize_items (zipfian : Zipfian) (items : UInt64) :
    (zipfian.resize items).items = zipfian.items := by
  unfold resize
  split
  · rfl
  · split <;> rfl

theorem resize_of_zetaItems {zipfian : Zipfian} {items : UInt64}
    (same : zipfian.zetaItems = items) : zipfian.resize items = zipfian := by
  unfold resize
  rw [if_neg (same ▸ UInt64.lt_irrefl _), if_neg (same ▸ UInt64.lt_irrefl _)]

theorem zetaItems_resize (zipfian : Zipfian) (items : UInt64) :
    (zipfian.resize items).zetaItems = items := by
  unfold resize
  split
  · rfl
  · split
    · rfl
    · exact UInt64.le_antisymm (UInt64.not_lt.mp ‹_›) (UInt64.not_lt.mp ‹_›)

theorem bare_drawAmong {zipfian after : Zipfian} {items value : UInt64} {source rest : σ}
    (drawn : zipfian.drawAmong items source = .ok (value, after, rest)) :
    after.bare = zipfian.bare := by
  rcases drawAmong_eq_ok_iff.mp drawn with ⟨_, _, rfl, _⟩
  exact bare_resize zipfian items

theorem settled_draw {zipfian after : Zipfian} {value : UInt64} {source rest : σ}
    (drawn : zipfian.draw source = .ok (value, after, rest)) :
    after.settled = zipfian.settled := by
  rcases drawAmong_eq_ok_iff.mp drawn with ⟨_, _, same, _⟩
  have items : after.items = zipfian.items := by
    rw [same]
    exact resize_items zipfian zipfian.items
  have made : after.zetaItems = zipfian.items := by
    rw [same]
    exact zetaItems_resize zipfian zipfian.items
  unfold settled
  rw [items, resize_of_zetaItems made, same]

end Zipfian

namespace Scrambled

def bare (scrambled : Scrambled) : Scrambled :=
  { scrambled with ranks := scrambled.ranks.settled }

theorem draw_eq_ok_iff {scrambled after : Scrambled} {value : UInt64} {source rest : σ} :
    scrambled.draw source = .ok (value, after, rest) ↔
      ∃ rank ranks, scrambled.ranks.draw source = .ok (rank, ranks, rest) ∧
        scrambled.place rank = .ok value ∧ after = { scrambled with ranks } := by
  simp only [draw, bind_eq_ok_iff, pure_eq_ok_iff]
  constructor
  · intro scattered
    rcases scattered with ⟨⟨rank, ranks, _⟩, ranked, _, placed, equal⟩
    cases equal
    exact ⟨rank, ranks, ranked, placed, rfl⟩
  · intro scattered
    rcases scattered with ⟨rank, ranks, ranked, placed, rfl⟩
    exact ⟨⟨rank, ranks, rest⟩, ranked, value, placed, rfl⟩

theorem bare_draw {scrambled after : Scrambled} {value : UInt64} {source rest : σ}
    (drawn : scrambled.draw source = .ok (value, after, rest)) :
    after.bare = scrambled.bare := by
  rcases draw_eq_ok_iff.mp drawn with ⟨rank, ranks, ranked, _, rfl⟩
  simp [bare, Zipfian.settled_draw ranked]

end Scrambled

namespace Latest

def bare (latest : Latest) : Latest := ⟨latest.ages.bare, 0⟩

theorem draw_eq_ok_iff {latest after : Latest} {newest value : UInt64} {source rest : σ} :
    latest.draw newest source = .ok (value, after, rest) ↔
      ∃ age ages, latest.ages.drawAmong newest source = .ok (age, ages, rest) ∧
        checkedSub newest age = .ok value ∧ after = ⟨ages, value⟩ := by
  simp only [draw, bind_eq_ok_iff, pure_eq_ok_iff]
  constructor
  · intro latest
    rcases latest with ⟨⟨age, ages, _⟩, aged, _, subtracted, equal⟩
    cases equal
    exact ⟨age, ages, aged, subtracted, rfl⟩
  · intro latest
    rcases latest with ⟨age, ages, aged, subtracted, rfl⟩
    exact ⟨⟨age, ages, rest⟩, aged, value, subtracted, rfl⟩

theorem bare_draw {latest after : Latest} {newest value : UInt64} {source rest : σ}
    (drawn : latest.draw newest source = .ok (value, after, rest)) :
    after.bare = latest.bare := by
  rcases draw_eq_ok_iff.mp drawn with ⟨age, ages, aged, _, rfl⟩
  simp [bare, Zipfian.bare_drawAmong aged]

end Latest

namespace KeyChoice

def bare : KeyChoice → KeyChoice
  | .uniform even => .uniform even.bare
  | .scrambled scattered => .scrambled scattered.bare
  | .latest recent => .latest recent.bare

theorem bare_draw {choice after : KeyChoice} {newest number : UInt64} {source rest : σ}
    (drawn : choice.draw newest source = .ok (number, after, rest)) :
    after.bare = choice.bare := by
  cases choice with
  | uniform even =>
      simp only [draw, pure_eq_ok_iff, Prod.mk.injEq] at drawn
      simp [← drawn.2.1, bare]
  | scrambled scattered =>
      simp only [draw, bind_eq_ok_iff, pure_eq_ok_iff] at drawn
      rcases drawn with ⟨_, drawn, equal⟩
      cases equal
      simp [bare, Scrambled.bare_draw drawn]
  | latest recent =>
      simp only [draw, bind_eq_ok_iff, pure_eq_ok_iff] at drawn
      rcases drawn with ⟨_, drawn, equal⟩
      cases equal
      simp [bare, Latest.bare_draw drawn]

theorem draw_scrambled_eq_ok_iff {scattered : Scrambled} {after : KeyChoice}
    {newest number : UInt64} {source rest : σ} :
    (scrambled scattered).draw newest source = .ok (number, after, rest) ↔
      ∃ current, scattered.draw source = .ok (number, current, rest) ∧
        after = .scrambled current := by
  simp only [draw, bind_eq_ok_iff, pure_eq_ok_iff]
  constructor
  · intro redrawn
    rcases redrawn with ⟨⟨_, current, _⟩, drawn, equal⟩
    cases equal
    exact ⟨current, drawn, rfl⟩
  · intro redrawn
    rcases redrawn with ⟨current, drawn, rfl⟩
    exact ⟨⟨number, current, rest⟩, drawn, rfl⟩

end KeyChoice

namespace LengthChoice

def bare : LengthChoice → LengthChoice
  | .constant length => .constant length
  | .uniform even => .uniform even.bare
  | .zipfian skewed => .zipfian skewed.bare

theorem bare_draw {choice after : LengthChoice} {length : UInt64} {source rest : σ}
    (drawn : choice.draw source = .ok (length, after, rest)) : after.bare = choice.bare := by
  cases choice with
  | constant length =>
      cases drawn
      rfl
  | uniform even =>
      simp only [draw, Except.ok.injEq, Prod.mk.injEq] at drawn
      simp [← drawn.2.1, bare]
  | zipfian skewed =>
      simp only [draw, bind_eq_ok_iff, pure_eq_ok_iff] at drawn
      rcases drawn with ⟨_, drawn, equal⟩
      cases equal
      simp [bare, Zipfian.bare_drawAmong drawn]

end LengthChoice

namespace Weighted

def bare {α : Type} (weighted : Weighted α) : Weighted α := { weighted with last? := none }

theorem draw_eq_ok_iff {α : Type} {weighted after : Weighted α} {value : α}
    {source rest : σ} :
    weighted.draw source = .ok (value, after, rest) ↔
      weighted.select? (drawFraction source).1 = some value ∧
      after = { weighted with last? := some value } ∧ rest = (drawFraction source).2 := by
  unfold draw
  cases selected : weighted.select? (drawFraction source).1 with
  | none => simp [selected]
  | some chosen =>
      simp only [selected, Except.ok.injEq, Prod.mk.injEq, Option.some.injEq]
      constructor
      · intro same
        rcases same with ⟨rfl, rfl, rfl⟩
        exact ⟨rfl, rfl, rfl⟩
      · intro same
        rcases same with ⟨rfl, rfl, rfl⟩
        exact ⟨rfl, rfl, rfl⟩

theorem bare_draw {α : Type} {weighted after : Weighted α} {value : α} {source rest : σ}
    (drawn : weighted.draw source = .ok (value, after, rest)) :
    after.bare = weighted.bare := by
  rcases draw_eq_ok_iff.mp drawn with ⟨_, rfl, _⟩
  rfl

theorem mem_of_firstReaching {α : Type} {target sum : Float} {entries : List (α × Float)}
    {value : α} (reached : firstReaching target sum entries = some value) :
    value ∈ entries.map Prod.fst := by
  induction entries generalizing sum with
  | nil => cases reached
  | cons entry rest induction =>
      rw [firstReaching] at reached
      split at reached
      · cases reached
        exact List.mem_cons_self
      · exact List.mem_cons_of_mem _ (induction reached)

theorem mem_of_draw {α : Type} {weighted after : Weighted α} {value : α} {source rest : σ}
    (drawn : weighted.draw source = .ok (value, after, rest)) :
    value ∈ weighted.entries.map Prod.fst := by
  rcases Option.or_eq_some_iff.mp (draw_eq_ok_iff.mp drawn).1 with reached | ⟨_, fallback⟩
  · exact mem_of_firstReaching reached
  · rcases Option.map_eq_some_iff.mp fallback with ⟨entry, final, rfl⟩
    exact List.mem_map_of_mem (List.mem_of_getLast? final)

end Weighted
end StoreBench
