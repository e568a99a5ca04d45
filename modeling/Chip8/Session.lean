import Chip8.Controller
import Chip8.Display.Screen
import Chip8.Runner
import Chip8.Storage
import Chip8.Text.Lines

/-!
# Sessions

A session joins three threads. The *controller* reads lines and turns them into commands; the *front
end* paints the display, passes the commands on and looks whether the machine has stopped; the
*scheduler* runs the machine. They share two channels, one from the controller to the front end and
one from the front end to the scheduler, and the display.

The session is one state, and each thread is a function that takes one step in it. A step is what a
thread does without another one being able to come between; every order of steps is a possible run of
the session. The end of the controller's input closes the session.
-/

namespace Chip8

/-! ## The terminal -/

/-- The calls with which a picture is sent to a terminal. -/
inductive TerminalCall
  /-- Hand over the text. -/
  | write
  /-- Have it shown. -/
  | flush
deriving DecidableEq, Repr

/-- A terminal. -/
structure Terminal where
  /-- Which call fails, if one does, and why. -/
  fault : Option (TerminalCall × String)
  /-- The frame that was painted last. -/
  picture : Option Frame
deriving DecidableEq

namespace Terminal

/-- A terminal on which nothing was painted. -/
def fresh (fault : Option (TerminalCall × String)) : Terminal := ⟨fault, none⟩

/-- Paints a frame. -/
def paint (t : Terminal) (frame : Frame) : Except TerminalError Unit × Terminal :=
  match t.fault with
  | none => (.ok (), { t with picture := some frame })
  | some (.write, reason) => (.error (.broken reason), t)
  | some (.flush, reason) => (.error (.broken reason), { t with picture := some frame })

/-- What the terminal shows, nothing if nothing was painted. -/
def screen (t : Terminal) : String :=
  match t.picture with
  | none => ""
  | some frame => frame.screen

end Terminal

/-! ## Errors -/

/-- Why a session did not start or did not come to a good end. -/
inductive SessionError
  /-- The program could not be opened. -/
  | cannotOpen (path : String) (cause : StorageError)
  /-- The program could not be loaded. -/
  | cannotLoad (path : String) (cause : RomError)
  /-- The machine stopped with an error. -/
  | stopped (cause : RunnerError)
  /-- The terminal failed. -/
  | terminal (cause : TerminalError)
deriving DecidableEq, Repr

/-- What is reported about a session, from the outermost text to its last cause. -/
def SessionError.messages : SessionError → List String
  | .cannotOpen path cause => ["could not open rom file " ++ path, cause.message]
  | .cannotLoad path cause => ("could not load " ++ path) :: cause.messages
  | .stopped cause => ["emulation stopped", cause.message]
  | .terminal cause => [cause.message]

/-! ## The state of a session -/

/-- Where the front end stands. Painting, passing on and looking follow each other in a circle. -/
inductive Stage
  /-- About to take a frame and paint it if it is new. -/
  | painting
  /-- About to look for a command from the controller. -/
  | forwarding
  /-- About to look whether the scheduler has stopped. -/
  | checking
  /-- Has found that the scheduler has stopped. -/
  | finished
  /-- Has given up because the terminal failed. -/
  | abandoned (cause : TerminalError)
deriving DecidableEq, Repr

/-- The joint state of the three threads. -/
structure Session where
  /-- The scheduler and the channel to it. -/
  loop : RunLoop
  /-- The lines that the controller has not read yet; a line that is not text is `none`. -/
  unread : List (Option (List Char))
  /-- The channel from the controller to the front end. -/
  controls : Channel Command
  /-- Whether the front end has not yet seen the controller's input end. -/
  listening : Bool
  /-- Where the front end stands. -/
  stage : Stage
  /-- The terminal. -/
  terminal : Terminal
  /-- What controller and front end have recorded. -/
  log : Log

namespace Session

/-- A session at its beginning. -/
def start (scheduler : Scheduler) (input : List UInt8) (terminal : Terminal) : Session where
  loop := .start scheduler .fresh 0
  unread := Text.lines input
  controls := .fresh
  listening := true
  stage := .painting
  terminal := terminal
  log := .fresh true

/-- The program in a file, put into a machine. -/
def openMachine (directory : Node) (path : String) (random : RandomSource) :
    Except SessionError Machine :=
  match directory.openPath path with
  | .error cause => .error (.cannotOpen path cause)
  | .ok node =>
    match Machine.load node.stream random with
    | .error cause => .error (.cannotLoad path cause)
    | .ok machine => .ok machine

/-- Records an event. -/
def note (s : Session) (event : Event) : Session :=
  { s with log := s.log.add event }

/-- Whether the front end has left its circle. -/
def isOver (s : Session) : Bool :=
  match s.stage with
  | .finished | .abandoned _ => true
  | .painting | .forwarding | .checking => false

/-! ## Steps of the threads -/

/-- The controller's input ends. -/
def endInput (s : Session) : Session :=
  { s with unread := [], controls := s.controls.hangUp }

/-- The controller reads a line. The first line that is not text ends the input, and so does a command
that nobody wants any more. -/
def readLine (s : Session) : Session :=
  if s.controls.isOpen then
    match s.unread with
    | [] => s.endInput
    | none :: _ => s.endInput
    | some line :: rest =>
      let s := { s with unread := rest }
      match Controller.parse line with
      | .ok none => s
      | .ok (some command) =>
        if s.isOver then s.endInput else { s with controls := s.controls.send command }
      | .error e => s.note (.refused e.message)
  else s

/-- A command is sent to the scheduler, where it gets lost if that has stopped. -/
def deliver (s : Session) (command : Command) : Session :=
  if s.loop.result?.isSome then s.note (.undelivered command)
  else { s with loop := s.loop.send command }

/-- The front end gives up because the terminal failed, and asks the scheduler to stop. -/
def abandon (s : Session) (cause : TerminalError) : Session :=
  { s with stage := .abandoned cause }.deliver .close

/-- The front end takes a frame and paints it if the display was touched. -/
def paint (s : Session) : Session :=
  let (frame, machine) := s.loop.scheduler.machine.snapshot
  let scheduler := { s.loop.scheduler with machine := machine }
  let s := { s with loop := { s.loop with scheduler := scheduler } }
  if frame.dirty then
    match s.terminal.paint frame with
    | (.ok (), terminal) => { s with terminal := terminal, stage := .forwarding }
    | (.error cause, terminal) => { s with terminal := terminal }.abandon cause
  else { s with stage := .forwarding }

/-- The front end passes one command on, if there is one. It passes on a request to stop when the
controller's input has ended. -/
def forward (s : Session) : Session :=
  if s.listening then
    match s.controls.receive with
    | (.message command, controls) => { s with controls := controls }.deliver command
    | (.empty, _) => { s with stage := .checking }
    | (.closed, _) => ({ s with listening := false }.note .inputClosed).deliver .close
  else { s with stage := .checking }

/-- The front end looks whether the scheduler has stopped. -/
def check (s : Session) : Session :=
  match s.loop.result? with
  | none => { s with stage := .painting }
  | some (.error _) => { s with stage := .finished }
  | some (.ok ()) => { s with stage := .finished }.note (.ended s.loop.scheduler.machine.pc)

/-- The front end takes a step. -/
def advanceFront (s : Session) : Session :=
  match s.stage with
  | .painting => s.paint
  | .forwarding => s.forward
  | .checking => s.check
  | .finished | .abandoned _ => s

/-- The scheduler takes a step at the time `now`. -/
def advanceLoop (s : Session) (now : Nat) : Session :=
  { s with loop := s.loop.step now }

/-- Who takes a step. -/
inductive Turn
  /-- The controller. -/
  | controller
  /-- The front end. -/
  | front
  /-- The scheduler, at a time. -/
  | scheduler (now : Nat)
deriving DecidableEq, Repr

/-- One step of one of the threads. -/
def step (s : Session) : Turn → Session
  | .controller => s.readLine
  | .front => s.advanceFront
  | .scheduler now => s.advanceLoop now

/-- Steps in the given order. -/
def play (s : Session) (turns : List Turn) : Session := turns.foldl step s

/-- How the session ended, `none` while it is going on. A session that was abandoned ends when its
scheduler has stopped. -/
def outcome? (s : Session) : Option (Except SessionError Machine) :=
  match s.stage, s.loop.result? with
  | .finished, some (.ok ()) => some (.ok s.loop.scheduler.machine)
  | .finished, some (.error fault) => some (.error (.stopped (.ofFault fault)))
  | .abandoned cause, some _ => some (.error (.terminal cause))
  | _, _ => none

end Session

end Chip8
