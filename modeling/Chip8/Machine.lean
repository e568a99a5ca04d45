import Chip8.CallStack
import Chip8.Display
import Chip8.Keypad
import Chip8.Memory
import Chip8.Random
import Chip8.Registers
import Chip8.Timers

/-!
# The machine

The state of a CHIP-8 machine. Program counter, index register and return addresses are 16-bit words
that wrap around; they become 12-bit addresses only where memory is accessed.
-/

namespace Chip8

/-- The whole state of the machine. -/
structure Machine where
  /-- The general registers. -/
  registers : Registers
  /-- The index register. -/
  index : UInt16
  /-- The program counter. -/
  pc : UInt16
  /-- The memory. -/
  memory : Memory
  /-- The stack of return addresses. -/
  stack : CallStack
  /-- The timers. -/
  timers : Timers
  /-- The display. -/
  display : Display
  /-- The keys held down now. -/
  keys : KeyMask
  /-- The keys that were held down in the last cycle that succeeded. -/
  lastKeys : KeyMask
  /-- Where random bytes come from. -/
  random : RandomSource

namespace Machine

/-- The value of a register. -/
def reg (m : Machine) (x : RegisterIndex) : UInt8 := m.registers.get x

/-- Gives a register a new value. -/
def setReg (m : Machine) (x : RegisterIndex) (value : UInt8) : Machine :=
  { m with registers := m.registers.put x value }

/-- Gives a register a new value and then sets the flag, which wins if the register is the flag
register. -/
def setRegFlag (m : Machine) (x : RegisterIndex) (value : UInt8) (raised : Bool) : Machine :=
  { m with registers := (m.registers.put x value).setFlag raised }

/-- Counts the timers down. -/
def tick (m : Machine) : Machine := { m with timers := m.timers.tick }

/-- Counts the timers down several times. -/
def ticks (m : Machine) (count : Nat) : Machine := { m with timers := m.timers.ticks count }

/-- Changes which keys are held down. -/
def setKeys (m : Machine) (keys : KeyMask) : Machine := { m with keys := keys }

/-- Takes a frame of the display. -/
def snapshot (m : Machine) : Frame × Machine :=
  let (frame, display) := m.display.snapshot
  (frame, { m with display := display })

end Machine

end Chip8
