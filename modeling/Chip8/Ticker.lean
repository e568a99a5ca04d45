/-!
# Tickers

A ticker becomes due once every period. It is serviced by advancing it: the next deadline is one
period after the last, unless that has already gone by, in which case it is one period from now.
Deadlines that were missed by more than a period are thus dropped and not made up for in a burst.
-/

namespace Chip8

/-- A periodic deadline. -/
structure Ticker where
  /-- Time between two deadlines, in nanoseconds. -/
  period : Nat
  /-- The next deadline. -/
  next : Nat
deriving DecidableEq, Repr

namespace Ticker

/-- A ticker whose first deadline is one period from now. -/
def start (period now : Nat) : Ticker := ⟨period, now + period⟩

/-- The deadline has come. -/
def Due (t : Ticker) (now : Nat) : Prop := t.next ≤ now

instance (t : Ticker) (now : Nat) : Decidable (t.Due now) :=
  inferInstanceAs (Decidable (_ ≤ _))

/-- Moves on to the next deadline that is still ahead. -/
def advance (t : Ticker) (now : Nat) : Ticker :=
  if t.next + t.period ≤ now then { t with next := now + t.period }
  else { t with next := t.next + t.period }

/-- Advancing keeps the period. -/
@[simp] theorem period_advance (t : Ticker) (now : Nat) : (t.advance now).period = t.period := by
  unfold advance
  split <;> rfl

/-- The next deadline lies one period behind the last one or behind now, whichever is later and not
yet past. -/
theorem next_advance (t : Ticker) (now : Nat) :
    (t.advance now).next =
      if t.next + t.period ≤ now then now + t.period else t.next + t.period := by
  unfold advance
  split <;> rfl

end Ticker

end Chip8
