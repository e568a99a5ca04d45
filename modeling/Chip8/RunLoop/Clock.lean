import Chip8.RunLoop

/-!
# Running a loop on a virtual clock

On a virtual clock a run is a function of its input. Every step of the loop takes `stepCost`
nanoseconds, and waiting takes exactly as long as it has to: the clock jumps to the deadline. Time is
bounded by a horizon, so every run comes to an end.
-/

namespace Chip8.RunLoop

/-- The time that one step of the loop takes, in nanoseconds. -/
def stepCost : Nat := 100

/-- When the loop takes its next step after one at `now`: at its deadline if it waits, but not behind
the horizon. -/
def wakeUp (l : RunLoop) (now horizon : Nat) : Nat :=
  match l.phase with
  | .waiting deadline => max (now + stepCost) (min deadline horizon)
  | .polling | .ended _ => now + stepCost

theorem lt_wakeUp (l : RunLoop) (now horizon : Nat) : now < l.wakeUp now horizon := by
  unfold wakeUp stepCost
  split <;> omega

/-- Runs the loop until it is left or the clock reaches the horizon. Returns the loop and the time. -/
def runUntil (l : RunLoop) (now horizon : Nat) : RunLoop × Nat :=
  if l.result?.isSome then (l, now)
  else if now < horizon then
    let after := l.step now
    after.runUntil (after.wakeUp now horizon) horizon
  else (l, now)
termination_by horizon - now
decreasing_by
  have := lt_wakeUp (l.step now) now horizon
  omega

end Chip8.RunLoop
