import Chip8.Log

/-!
# The scheduler

The scheduler owns the machine: instructions, timer ticks and commands reach it one at a time. This
module says what each of them does; when they happen is decided by the run loop.
-/

namespace Chip8

/-- A machine under control. -/
structure Scheduler where
  /-- The machine. -/
  machine : Machine
  /-- The settings of the session. -/
  profile : Profile
  /-- Whether instructions are executed on their own. -/
  state : RunState
  /-- What has happened so far. -/
  log : Log

/-- What a handled command means for the run loop. -/
inductive Flow
  /-- Go on. -/
  | proceed
  /-- Leave the loop. -/
  | stop
deriving DecidableEq, Repr

namespace Scheduler

/-- A scheduler in the state that its profile asks for. -/
def ofMachine (machine : Machine) (profile : Profile) (log : Log) : Scheduler :=
  ⟨machine, profile, if profile.startPaused then .paused else .running, log⟩

/-- Records an event. -/
def note (s : Scheduler) (event : Event) : Scheduler :=
  { s with log := s.log.add event }

/-- Counts the timers of the machine down. -/
def tick (s : Scheduler) : Scheduler :=
  { s with machine := s.machine.tick }

/-- Executes one instruction, whatever the state. -/
def step (s : Scheduler) : Except Fault Unit × Scheduler :=
  match s.machine.cycle with
  | (.ok instruction, machine) =>
    let s := { s with machine := machine }
    (.ok (), (s.note (.executed instruction)).note (.registers machine.dump))
  | (.error fault, machine) =>
    let s := { s with machine := machine }
    match fault with
    | .unrecognised word => (.error fault, s.note (.halted machine.pc word))
    | .randomFailed => (.error fault, s)

/-- Executes one instruction if the machine is in the given state. -/
def stepWhen (s : Scheduler) (state : RunState) : Except Fault Unit × Scheduler :=
  if s.state = state then s.step else (.ok (), s)

/-- Does what a command asks for. -/
def handle (s : Scheduler) (command : Command) : Except Fault Flow × Scheduler :=
  let s := s.note (.received command)
  match command with
  | .pause =>
    let state := s.state.toggle
    (.ok .proceed, { s with state := state }.note (.toggled state))
  | .step =>
    match s.stepWhen .paused with
    | (.ok (), s) => (.ok .proceed, s)
    | (.error fault, s) => (.error fault, s)
  | .setKeys keys => (.ok .proceed, { s with machine := s.machine.setKeys keys })
  | .close => (.ok .stop, s)

end Scheduler

end Chip8
