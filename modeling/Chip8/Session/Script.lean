import Chip8.Session

/-!
# Scripted sessions

A script is the controller's input with cues in it, at which the input stops until the session has
come to a certain point. Performing a script is one particular order of the threads' steps, on a
virtual clock: the controller reads all there is, then rounds follow in which the front end goes once
through its circle and the scheduler runs until the next one.

Painting and checking take no time, but passing on many commands does. The scheduler wakes up in the
meantime and may even stop before the front end comes to check.
-/

namespace Chip8

/-- A point at which the controller's input stops for a while. -/
inductive Cue
  /-- Go on when everything read so far was handled and painted, and note what the terminal shows. -/
  | picture
  /-- Go on when the machine has stopped. -/
  | halt
deriving DecidableEq, Repr

/-- A piece of a script. -/
inductive ScriptItem
  /-- Bytes for the controller. -/
  | input (bytes : List UInt8)
  /-- A cue. -/
  | cue (cue : Cue)
deriving DecidableEq, Repr

/-- The controller's input with cues in it. -/
abbrev Script := List ScriptItem

namespace Script

/-- The whole input of the controller. -/
def bytes (script : Script) : List UInt8 :=
  script.flatMap fun
    | .input bytes => bytes
    | .cue _ => []

/-- The cues, each with the number of lines that are complete before it, counted from `before`. -/
def cues (before : Nat) : Script → List (Nat × Cue)
  | [] => []
  | .input bytes :: rest => cues (before + bytes.count 0x0A) rest
  | .cue cue :: rest => (before, cue) :: cues before rest

end Script

/-- A session on a virtual clock. -/
structure Performance where
  /-- The session. -/
  session : Session
  /-- The time, in nanoseconds. -/
  now : Nat
  /-- How many lines the controller has read. -/
  linesRead : Nat
  /-- What the terminal showed at the cues, latest first, `none` where the machine had stopped with an
  error or the terminal had failed. -/
  pictures : List (Option String)

namespace Performance

/-- Time between two frames. -/
def refresh : Nat := 16 * Runner.millisecond

/-- How many rounds one waits for something to happen. -/
def patience : Nat := Runner.patience / refresh

/-- A performance at its beginning. -/
def start (session : Session) : Performance := ⟨session, 0, 0, []⟩

/-- The controller takes some steps. -/
def read (p : Performance) (count : Nat) : Performance :=
  { p with session := Nat.repeat Session.readLine count p.session, linesRead := p.linesRead + count }

/-- The front end takes steps until it is about to check or has left its circle, or `fuel` steps. -/
def forwardAll : (fuel : Nat) → Session → Session
  | 0, s => s
  | fuel + 1, s =>
    match s.stage with
    | .painting | .forwarding => forwardAll fuel s.advanceFront
    | .checking | .finished | .abandoned _ => s

/-- The scheduler runs until some time. -/
def runUntil (p : Performance) (time : Nat) : Performance :=
  let (loop, now) := p.session.loop.runUntil p.now time
  { p with session := { p.session with loop := loop }, now := now }

/-- Time that it takes to pass on a command. -/
def forwardCost : Nat := 200

/-- Time until the scheduler notices a command that it was waiting for. -/
def latency : Nat := 100000

/-- The front end goes once through its circle. It forwards all commands that wait for it, and by then
the scheduler has come as far as it could. -/
def turnFront (p : Performance) : Performance :=
  let waiting := p.session.controls.queue.length
  let session := forwardAll (waiting + 3) p.session
  let forwarded := waiting - session.controls.queue.length
  let p := { p with session := session }.runUntil (p.now + (forwarded * forwardCost - latency))
  { p with session := p.session.advanceFront }

/-- The front end goes through its circle and the scheduler runs until the next frame. -/
def round (p : Performance) : Performance := p.turnFront.runUntil (p.now + refresh)

/-- Rounds until the scheduler has stopped, at most `count`. -/
def untilStopped : (count : Nat) → Performance → Performance
  | 0, p => p
  | count + 1, p =>
    if p.session.loop.result?.isSome then p else untilStopped count p.round

/-- What the terminal shows, unless the machine has stopped with an error or the terminal has
failed. -/
def picture? (p : Performance) : Option String :=
  match p.session.stage, p.session.loop.result? with
  | .abandoned _, _ => none
  | _, some (.error _) => none
  | _, _ => some p.session.terminal.screen

/-- Acts on a cue. -/
def obey (p : Performance) : Cue → Performance
  | .picture =>
    let p := p.round.turnFront
    { p with pictures := p.picture? :: p.pictures }
  | .halt => untilStopped patience p

/-- Lets the controller read what comes before a cue and acts on it. A cue behind the line with which
the controller gave up reading is not reached. -/
def act (p : Performance) (cue : Nat × Cue) : Performance :=
  let p := p.read (cue.1 - p.linesRead)
  if p.session.controls.isOpen then p.obey cue.2 else p

/-- Lets the controller read the rest of its input and the session come to its end. -/
def finish (p : Performance) : Performance :=
  (untilStopped patience (p.read (p.session.unread.length + 1))).turnFront

/-- Performs a script. The first round is over before the controller has read its first line. -/
def ofScript (scheduler : Scheduler) (terminal : Terminal) (script : Script) : Performance :=
  let opening := (start (.start scheduler script.bytes terminal)).round
  ((script.cues 0).foldl act opening).finish

end Performance

end Chip8
