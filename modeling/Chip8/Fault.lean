import Chip8.Instruction.Mnemonic

/-!
# Faults

The two ways in which executing an instruction can fail.
-/

namespace Chip8

/-- Why a machine stopped. -/
inductive Fault
  /-- The word at the program counter is not an instruction. -/
  | unrecognised (word : Word)
  /-- The random source delivered nothing. -/
  | randomFailed
deriving DecidableEq, Repr

/-- The text of a fault. -/
def Fault.message : Fault → String
  | .unrecognised word => "unrecognised opcode 0x" ++ word.hex
  | .randomFailed => "random source failed"

end Chip8
