import Chip8.Command
import Chip8.Machine.Cycle
import Chip8.Machine.Dump
import Chip8.Profile

/-!
# The log

What happens in a session is recorded as events; a line of the log is the level of an event and its
text. Recording can be switched off, and then costs nothing.
-/

namespace Chip8

/-- How important an event is. -/
inductive Level
  | error
  | warn
  | info
  | debug
  | trace
deriving DecidableEq, Repr

/-- The name of a level. -/
def Level.text : Level → String
  | .error => "ERROR"
  | .warn => "WARN"
  | .info => "INFO"
  | .debug => "DEBUG"
  | .trace => "TRACE"

/-- Something worth recording. -/
inductive Event
  /-- A program of so many bytes was loaded. -/
  | loaded (size : Nat)
  /-- The run loop was entered. -/
  | started (profile : Profile) (state : RunState)
  /-- The run loop was left without a fault, with this program counter. -/
  | stopped (pc : UInt16)
  /-- A command is being handled. -/
  | received (command : Command)
  /-- The state was toggled. -/
  | toggled (state : RunState)
  /-- An instruction was executed. -/
  | executed (instruction : Executed)
  /-- The registers after an instruction. -/
  | registers (dump : Dump)
  /-- The word at this address is not an instruction. -/
  | halted (pc : UInt16) (word : Word)
  /-- All senders of commands are gone. -/
  | hungUp
  /-- A command was sent after the scheduler had ended. -/
  | undelivered (command : Command)
  /-- The thread of the scheduler ended abnormally. -/
  | crashed
  /-- The controller's input has ended. -/
  | inputClosed
  /-- A line of the controller was refused. -/
  | refused (reason : String)
  /-- The session came to a good end, with this program counter. -/
  | ended (pc : UInt16)

namespace Event

/-- The level of an event. -/
def level : Event → Level
  | .loaded _ | .started _ _ | .stopped _ | .inputClosed | .ended _ => .info
  | .received _ | .toggled _ | .hungUp | .undelivered _ => .debug
  | .executed _ | .registers _ => .trace
  | .halted _ _ | .crashed => .error
  | .refused _ => .warn

/-- An address as the log shows it. -/
def address (pc : UInt16) : String := Numeral.hexCapital 4 pc.toNat

/-- The text of an event. -/
def text : Event → String
  | .loaded size => "Loaded ROM [size: " ++ Numeral.decimal size ++ "]"
  | .started profile state =>
    "Scheduler started [ips: " ++ Numeral.decimal profile.ips.toNat ++ "] [timer: " ++
      Numeral.decimal profile.timerHz.toNat ++ " Hz] [state: " ++ state.text ++ "]"
  | .stopped pc => "Scheduler stopped [pc: " ++ address pc ++ "]"
  | .received command => "Command: " ++ command.text
  | .toggled state => "State: " ++ state.text
  | .executed instruction =>
    address instruction.pc ++ " [" ++ instruction.word.hex ++ "] " ++ instruction.word.mnemonic
  | .registers dump => dump.text
  | .halted pc word => "Halting at " ++ address pc ++ ": " ++ (Fault.unrecognised word).message
  | .hungUp => "Command channel closed"
  | .undelivered command => "Scheduler gone, dropped " ++ command.text
  | .crashed => "Scheduler thread panicked"
  | .inputClosed => "Controller input closed"
  | .refused reason => reason
  | .ended pc => "Session ended [pc: " ++ address pc ++ "]"

/-- The line of an event in the log. -/
def line (e : Event) : String := e.level.text ++ " " ++ e.text

end Event

/-- Recorded events, oldest first. -/
structure Log where
  /-- Whether events are recorded. -/
  recording : Bool
  /-- The recorded events. -/
  events : Array Event

namespace Log

/-- An empty log, recording or not. -/
def fresh (recording : Bool) : Log := ⟨recording, #[]⟩

/-- Records an event. -/
def add (log : Log) (event : Event) : Log :=
  if log.recording then { log with events := log.events.push event } else log

/-- Forgets what was recorded. -/
def clear (log : Log) : Log := { log with events := #[] }

/-- The lines of the log. -/
def lines (log : Log) : List String := log.events.toList.map Event.line

/-- A log that records keeps its events in order. -/
theorem events_add {log : Log} (h : log.recording = true) (event : Event) :
    (log.add event).events.toList = log.events.toList ++ [event] := by
  simp [add, h]

/-- Adding an event does not switch recording on or off. -/
@[simp] theorem recording_add (log : Log) (event : Event) :
    (log.add event).recording = log.recording := by
  unfold add
  split <;> rfl

end Log

end Chip8
