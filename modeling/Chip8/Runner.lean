import Chip8.RunLoop.Clock

/-!
# A scheduler on its own thread

A runner is a run loop with a clock, seen from the thread that steers it: commands are sent and
forgotten, and in the end the runner is either joined, which yields the machine or the reason why it
stopped, or dropped, which asks it to stop first.
-/

namespace Chip8

/-- Why a runner yields no machine. -/
inductive RunnerError
  /-- The machine met a word that is not an instruction. -/
  | unrecognised (word : Word)
  /-- The thread broke down. -/
  | crashed
deriving DecidableEq, Repr

namespace RunnerError

/-- The text of a runner's error. -/
def message : RunnerError → String
  | .unrecognised word => (Fault.unrecognised word).message
  | .crashed => "scheduler thread terminated abnormally"

/-- A fault of the machine as it is seen from another thread. -/
def ofFault : Fault → RunnerError
  | .unrecognised word => .unrecognised word
  | .randomFailed => .crashed

end RunnerError

/-- A run loop and the time on its clock. -/
structure Runner where
  /-- The loop. -/
  loop : RunLoop
  /-- The time, in nanoseconds since the loop was entered. -/
  now : Nat

namespace Runner

/-- Nanoseconds in a millisecond. -/
def millisecond : Nat := 1000000

/-- How long one waits for a runner to end: an hour. -/
def patience : Nat := 3600 * second

/-- Enters the run loop. -/
def start (scheduler : Scheduler) (channel : Channel Command) : Runner :=
  ⟨.start scheduler channel 0, 0⟩

/-- Whether the loop has been left. -/
def isFinished (r : Runner) : Bool := r.loop.result?.isSome

/-- Records an event. -/
def note (r : Runner) (event : Event) : Runner :=
  { r with loop := { r.loop with scheduler := r.loop.scheduler.note event } }

/-- Sends a command. Once the loop has been left it gets lost. -/
def send (r : Runner) (command : Command) : Runner :=
  if r.isFinished then r.note (.undelivered command)
  else { r with loop := r.loop.send command }

/-- Lets the loop run for some time. -/
def run (r : Runner) (duration : Nat) : Runner :=
  let (loop, now) := r.loop.runUntil r.now (r.now + duration)
  ⟨loop, now⟩

/-- Waits until the loop has been left. -/
def await (r : Runner) : Runner := r.run patience

/-- What joining yields, `none` while the loop is running. -/
def outcome? (r : Runner) : Option (Except RunnerError Machine) :=
  match r.loop.result? with
  | none => none
  | some (.ok ()) => some (.ok r.loop.scheduler.machine)
  | some (.error fault) => some (.error (.ofFault fault))

/-- Asks the loop to stop and waits for it. A breakdown of the thread is recorded. -/
def drop (r : Runner) : Runner :=
  let r := (r.send .close).await
  match r.outcome? with
  | some (.error .crashed) => r.note .crashed
  | _ => r

end Runner

end Chip8
