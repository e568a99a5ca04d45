import Chip8.Program

/-!
# The command-line tool

The outer layer of the program: it reads the ROM, the controller's lines and the clock, hands them to
a session and sends its pictures to the terminal. What is done with them is decided by the library;
here is only the traffic with the world.
-/

namespace Chip8.Tool

/-- The text of an error of the operating system. -/
def systemMessage : IO.Error → String
  | .noFileOrDirectory _ code details => describe code details
  | .permissionDenied _ code details => describe code details
  | .inappropriateType _ code details => describe code details
  | .invalidArgument _ code details => describe code details
  | .resourceExhausted _ code details => describe code details
  | .alreadyExists _ code details => describe code details
  | .noSuchThing _ code details => describe code details
  | .interrupted _ code details => describe code details
  | .otherError code details => describe code details
  | .resourceBusy code details => describe code details
  | .resourceVanished code details => describe code details
  | .unsupportedOperation code details => describe code details
  | .hardwareFault code details => describe code details
  | .unsatisfiedConstraints code details => describe code details
  | .illegalOperation code details => describe code details
  | .protocolError code details => describe code details
  | .timeExpired code details => describe code details
  | .unexpectedEof => "unexpected end of file"
  | .userError text => text
where
  /-- A text of the system with its code. -/
  describe (code : UInt32) (details : String) : String :=
    details ++ " (os error " ++ Numeral.decimal code.toNat ++ ")"

/-- Reads from a file until its end, a failure, or more bytes than a program can have. -/
def readOutcomes (file : IO.FS.Handle) : (fuel : Nat) → IO (List ReadOutcome)
  | 0 => return []
  | fuel + 1 => do
    match ← (file.read 4096).toBaseIO with
    | .error e => return [.failed (systemMessage e)]
    | .ok bytes =>
      if bytes.isEmpty then return []
      let rest ← readOutcomes file fuel
      return .chunk bytes.toList :: rest

/-- A random source that nobody can foresee. -/
def freshSource : IO RandomSource := do
  let bytes ← IO.getRandomBytes 8
  return .seeded (bytes.toList.foldl (fun seed b => seed * 256 + b.toUInt64) 0)

/-- Loads the program in a file. -/
def openMachine (path : String) : IO (Except (List String) Machine) := do
  match ← (IO.FS.Handle.mk path .read).toBaseIO with
  | .error e => return .error ["could not open rom file " ++ path, systemMessage e]
  | .ok file =>
    let stream ← readOutcomes file 4
    match Machine.load stream (← freshSource) with
    | .error cause => return .error (SessionError.cannotLoad path cause).messages
    | .ok machine => return .ok machine

/-- Lines that have come from the controller, and whether more can come. -/
structure Inbox where
  /-- The lines, oldest first. -/
  lines : List (Option (List Char))
  /-- Whether the input has ended. -/
  atEnd : Bool

/-- Puts the lines of the standard input into the inbox as they come. -/
partial def collect (input : IO.FS.Stream) (inbox : IO.Ref Inbox) : IO Unit := do
  match ← input.getLine.toBaseIO with
  | .error _ => inbox.modify fun box => { box with atEnd := true }
  | .ok line =>
    if line.isEmpty then
      inbox.modify fun box => { box with atEnd := true }
    else
      inbox.modify fun box => { box with lines := box.lines ++ Text.lines line.toUTF8.toList }
      collect input inbox

/-- Hands the lines of the inbox to the controller. -/
def readInbox (inbox : IO.Ref Inbox) (p : Performance) : IO Performance := do
  let box ← inbox.modifyGet fun box => (box, { box with lines := [] })
  let p := { p with session := { p.session with unread := p.session.unread ++ box.lines } }
  return p.read (box.lines.length + (if box.atEnd then 1 else 0))

/-- Lets the front end go through its circle and sends the picture to the terminal if there is one. -/
def turnFront (output : IO.FS.Stream) (p : Performance) : IO Performance := do
  let cleared := { p.session with terminal := .fresh none }
  let p := { p with session := cleared }.turnFront
  match p.session.terminal.picture with
  | none => return p
  | some frame =>
    match ← (do output.putStr frame.screen; output.flush : IO Unit).toBaseIO with
    | .ok () => return p
    | .error e => return { p with session := p.session.abandon (.broken (systemMessage e)) }

/-- Runs a session in real time until it ends. The scheduler catches up with the clock every
millisecond; the front end takes its turn at the frame rate. -/
partial def perform (output : IO.FS.Stream) (inbox : IO.Ref Inbox) (origin nextFrame : Nat)
    (p : Performance) : IO Performance := do
  let p ← readInbox inbox p
  let now := (← IO.monoNanosNow) - origin
  let p := p.runUntil now
  if p.session.outcome?.isSome then return p
  let (p, nextFrame) ←
    if nextFrame ≤ now then
      pure (← turnFront output p, now + Performance.refresh)
    else
      pure (p, nextFrame)
  if p.session.outcome?.isSome then return p
  IO.sleep 1
  perform output inbox origin nextFrame p

/-- Runs a session. -/
def runSession (options : CommandLine.Options) : IO Answer := do
  match ← openMachine (String.ofList options.rom) with
  | .error messages => return ⟨1, "", Report.full messages⟩
  | .ok machine =>
    let inbox ← IO.mkRef (Inbox.mk [] false)
    let _ ← IO.asTask (collect (← IO.getStdin) inbox) .dedicated
    let scheduler := Scheduler.ofMachine machine options.profile (.fresh false)
    let p ← perform (← IO.getStdout) inbox (← IO.monoNanosNow) 0
      (.start (.start scheduler [] (.fresh none)))
    match p.session.outcome? with
    | some (.error cause) => return .ofSession "" (.error cause)
    | some (.ok _) | none => return .ofSession "" (.ok ())

/-- Answers to the arguments. -/
def run (arguments : List String) : IO Answer :=
  match CommandLine.parse (arguments.map String.toList) with
  | .error cause => return .ofUsageError cause
  | .ok .help => return .ofText CommandLine.helpText
  | .ok .version => return .ofText CommandLine.versionText
  | .ok (.run options) => runSession options

end Chip8.Tool

/-- The entry point of the tool. -/
def main (arguments : List String) : IO UInt32 := do
  let answer ← Chip8.Tool.run arguments
  (← IO.getStdout).putStr answer.output
  (← IO.getStderr).putStr answer.errors
  return answer.exitCode.toUInt32
