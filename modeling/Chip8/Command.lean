import Chip8.Keypad
import Chip8.Text.Numeral

/-!
# Commands

What a running machine can be asked to do, and the two states it can be in.
-/

namespace Chip8

/-- A request to the scheduler. -/
inductive Command
  /-- Change between running and paused. -/
  | pause
  /-- Execute one instruction; ignored unless paused. -/
  | step
  /-- Change which keys are held down. -/
  | setKeys (keys : KeyMask)
  /-- Stop for good. -/
  | close
deriving DecidableEq, Repr

/-- The name of a command in the log. -/
def Command.text : Command → String
  | .pause => "Pause"
  | .step => "Step"
  | .setKeys keys => "SetKeyMap(" ++ Numeral.decimal keys.toNat ++ ")"
  | .close => "Close"

/-- Whether instructions are executed on their own. -/
inductive RunState
  /-- Instructions are executed at the rate of the profile. -/
  | running
  /-- Instructions are executed only when asked for. -/
  | paused
deriving DecidableEq, Repr

namespace RunState

/-- The other state. -/
def toggle : RunState → RunState
  | .running => .paused
  | .paused => .running

/-- The name of a state in the log. -/
def text : RunState → String
  | .running => "Running"
  | .paused => "Paused"

end RunState

end Chip8
