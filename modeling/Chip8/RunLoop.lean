import Chip8.Scheduler
import Chip8.Channel
import Chip8.Ticker

/-!
# The run loop

The loop takes turns between three sources of work, in this order: commands, timer ticks and
instructions. Commands come first, so that a request to stop is honoured even when the loop is
running behind. When nothing is to be done it waits for a command until the earlier of the two
deadlines.

The loop is a state that is advanced one step at a time. A step looks at the channel and at most once
at the clock; the clock is not part of the state but handed to the step. Whatever else happens in the
world (commands that are sent, senders that leave, time that passes) happens between two steps.
-/

namespace Chip8

/-- Where the loop stands between two steps. -/
inductive Phase
  /-- About to look for work. -/
  | polling
  /-- Waiting for a command until the deadline. -/
  | waiting (deadline : Nat)
  /-- Left, with or without a fault. -/
  | ended (result : Except Fault Unit)

/-- The run loop of a scheduler. -/
structure RunLoop where
  /-- The scheduler that is run. -/
  scheduler : Scheduler
  /-- When instructions are due. -/
  cycles : Ticker
  /-- When timer ticks are due. -/
  timers : Ticker
  /-- Commands under way. -/
  channel : Channel Command
  /-- Where the loop stands. -/
  phase : Phase

namespace RunLoop

/-- Enters the loop. Both tickers start now. -/
def start (scheduler : Scheduler) (channel : Channel Command) (now : Nat) : RunLoop where
  scheduler := scheduler.note (.started scheduler.profile scheduler.state)
  cycles := .start scheduler.profile.cyclePeriod now
  timers := .start scheduler.profile.timerPeriod now
  channel := channel
  phase := .polling

/-- How the loop was left, `none` while it is running. -/
def result? (l : RunLoop) : Option (Except Fault Unit) :=
  match l.phase with
  | .ended result => some result
  | .polling | .waiting _ => none

/-- A command is put into the channel. -/
def send (l : RunLoop) (command : Command) : RunLoop :=
  { l with channel := l.channel.send command }

/-- The senders of commands leave. -/
def hangUp (l : RunLoop) : RunLoop :=
  { l with channel := l.channel.hangUp }

/-- Leaves the loop without a fault. -/
def stop (l : RunLoop) : RunLoop :=
  { l with
    scheduler := l.scheduler.note (.stopped l.scheduler.machine.pc)
    phase := .ended (.ok ()) }

/-- Handles a command. -/
def serve (l : RunLoop) (command : Command) : RunLoop :=
  match l.scheduler.handle command with
  | (.ok .proceed, scheduler) => { l with scheduler := scheduler, phase := .polling }
  | (.ok .stop, scheduler) => { l with scheduler := scheduler }.stop
  | (.error fault, scheduler) => { l with scheduler := scheduler, phase := .ended (.error fault) }

/-- Finds that no command will come any more. -/
def disconnect (l : RunLoop) : RunLoop :=
  { l with scheduler := l.scheduler.note .hungUp }.stop

/-- Services the timer deadline. -/
def fireTimers (l : RunLoop) (now : Nat) : RunLoop :=
  { l with timers := l.timers.advance now, scheduler := l.scheduler.tick, phase := .polling }

/-- Services the instruction deadline, which executes an instruction if the machine is running. -/
def fireCycles (l : RunLoop) (now : Nat) : RunLoop :=
  let l := { l with cycles := l.cycles.advance now }
  match l.scheduler.stepWhen .running with
  | (.ok (), scheduler) => { l with scheduler := scheduler, phase := .polling }
  | (.error fault, scheduler) => { l with scheduler := scheduler, phase := .ended (.error fault) }

/-- The earlier of the two deadlines. -/
def deadline (l : RunLoop) : Nat := min l.cycles.next l.timers.next

/-- Does what is due, or starts to wait. -/
def work (l : RunLoop) (now : Nat) : RunLoop :=
  if l.timers.Due now then l.fireTimers now
  else if l.cycles.Due now then l.fireCycles now
  else { l with phase := .waiting l.deadline }

/-- What the loop does when there is no command: it works or goes on waiting. -/
def idle (l : RunLoop) (now : Nat) : RunLoop :=
  match l.phase with
  | .polling => l.work now
  | .waiting deadline => if deadline ≤ now then { l with phase := .polling } else l
  | .ended _ => l

/-- One step of the loop, at the time `now`. A loop that was left makes no more steps. -/
def step (l : RunLoop) (now : Nat) : RunLoop :=
  if l.result?.isSome then l
  else match l.channel.receive with
    | (.message command, channel) => { l with channel := channel }.serve command
    | (.closed, _) => l.disconnect
    | (.empty, _) => l.idle now

end RunLoop

end Chip8
