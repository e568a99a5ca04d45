import Chip8.CommandLine
import Chip8.Report
import Chip8.Session.Script

/-!
# The program

What the program answers to its arguments: the texts it writes and the code it exits with. Usage
errors exit with 2, sessions that do not come to a good end with 1, everything else with 0.

`Program.run` is the whole program on a virtual clock, with the input and the storage given in
advance. The command-line tool does the same with real ones.
-/

namespace Chip8

/-- What a run of the program leaves behind. -/
structure Answer where
  /-- The exit code. -/
  exitCode : UInt8
  /-- What was written to the standard output. -/
  output : String
  /-- What was written to the standard error output. -/
  errors : String
deriving DecidableEq, Repr

namespace Answer

/-- A text was asked for. -/
def ofText (text : String) : Answer := ⟨0, text, ""⟩

/-- The arguments make no request. -/
def ofUsageError (cause : CommandLine.UsageError) : Answer :=
  ⟨2, "", CommandLine.usageReport cause⟩

/-- A session ended, having shown something on the terminal. -/
def ofSession (shown : String) : Except SessionError Unit → Answer
  | .ok () => ⟨0, shown, ""⟩
  | .error cause => ⟨1, shown, Report.full cause.messages⟩

end Answer

namespace Program

/-- Runs a session to its end. The terminal is left with the picture that was painted last. -/
def runSession (directory : Node) (options : CommandLine.Options) (input : List UInt8) : Answer :=
  match Session.openMachine directory (String.ofList options.rom) (.seeded 0) with
  | .error cause => .ofSession "" (.error cause)
  | .ok machine =>
    let scheduler := Scheduler.ofMachine machine options.profile (.fresh false)
    let session := (Performance.ofScript scheduler (.fresh none) [.input input]).session
    match session.outcome? with
    | some (.error cause) => .ofSession session.terminal.screen (.error cause)
    | some (.ok _) | none => .ofSession session.terminal.screen (.ok ())

/-- Runs the program. -/
def run (directory : Node) (arguments : List String) (input : List UInt8) : Answer :=
  match CommandLine.parse (arguments.map String.toList) with
  | .error cause => .ofUsageError cause
  | .ok .help => .ofText CommandLine.helpText
  | .ok .version => .ofText CommandLine.versionText
  | .ok (.run options) => runSession directory options input

end Program

end Chip8
