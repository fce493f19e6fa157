namespace StoreBench

/-! A counter hands out increasing numbers, one after the other. After the
largest word it starts again from zero. -/

/-- A counter, known by the number it hands out next. -/
structure Counter where
  upcoming : UInt64
  deriving DecidableEq, Repr

namespace Counter

def startingAt (start : UInt64) : Counter := ⟨start⟩

def next (counter : Counter) : UInt64 × Counter :=
  (counter.upcoming, ⟨counter.upcoming + 1⟩)

/-- The number before the upcoming one, which is the number handed out last unless
the counter is new. -/
def last (counter : Counter) : UInt64 := counter.upcoming - 1

example : (startingAt 10).last = 9 := rfl

example : (startingAt 18446744073709551615).next.2.upcoming = 0 := rfl

@[simp] theorem last_next (counter : Counter) : counter.next.2.last = counter.next.1 := by
  simp [next, last]

end Counter
end StoreBench
