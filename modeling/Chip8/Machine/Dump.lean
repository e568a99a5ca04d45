import Chip8.Machine
import Chip8.Text.Numeral

/-!
# The register dump

Two lines of text that show all registers of a machine. Program counter, index register, key mask and
general registers have a fixed width; stack pointer and timers are decimal, with at least two digits.
-/

namespace Chip8

/-- What a register dump shows. -/
structure Dump where
  /-- The program counter. -/
  pc : UInt16
  /-- The stack pointer. -/
  stackPointer : UInt8
  /-- The index register. -/
  index : UInt16
  /-- The timers. -/
  timers : Timers
  /-- The keys held down. -/
  keys : KeyMask
  /-- The general registers. -/
  registers : Registers
deriving DecidableEq

/-- The registers of a machine. -/
def Machine.dump (m : Machine) : Dump where
  pc := m.pc
  stackPointer := m.stack.pointer
  index := m.index
  timers := m.timers
  keys := m.keys
  registers := m.registers

namespace Dump

/-- The first line of a dump. -/
def head (d : Dump) : String :=
  "pc:" ++ Numeral.hexSmall 4 d.pc.toNat ++
  " sp:" ++ Numeral.decimalPadded 2 d.stackPointer.toNat ++
  " i:" ++ Numeral.hexSmall 4 d.index.toNat ++
  " dt:" ++ Numeral.decimalPadded 2 d.timers.delay.toNat ++
  " st:" ++ Numeral.decimalPadded 2 d.timers.sound.toNat ++
  " km:" ++ Numeral.binary 16 d.keys.toNat

/-- A general register with its number. -/
def register (d : Dump) (x : RegisterIndex) : String :=
  Numeral.hexCapital 1 x ++ ":" ++ Numeral.hexSmall 2 (d.registers.get x).toNat

/-- The text of a dump; the second line has no line end. -/
def text (d : Dump) : String :=
  d.head ++ "\n" ++ String.intercalate " " ((List.finRange 16).map d.register)

end Dump

end Chip8
