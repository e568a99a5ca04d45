import Chip8.Word

/-!
# The instruction set

Thirty-five operations, each recognised by a value under a mask. The table `instructionSet` is data:
a word means the operation of the first entry it matches, and no operation when it matches none.
Clearing the screen and returning are special cases of the machine-code call `0nnn`, so their entries
stand before it; no other word matches two entries.
-/

namespace Chip8

/-- What an instruction does. The names follow the effect; operands are those of the word. -/
inductive Operation
  /-- Clear the display. -/
  | clear
  /-- Return from a subroutine. -/
  | ret
  /-- Call a machine-code routine, which is ignored. -/
  | sys
  /-- Jump to an address. -/
  | jump
  /-- Call a subroutine. -/
  | call
  /-- Skip the next instruction if a register equals a byte. -/
  | skipEqByte
  /-- Skip the next instruction if a register differs from a byte. -/
  | skipNeByte
  /-- Skip the next instruction if two registers are equal. -/
  | skipEq
  /-- Load a byte into a register. -/
  | loadByte
  /-- Add a byte to a register, leaving the flag alone. -/
  | addByte
  /-- Copy a register. -/
  | copy
  /-- Bitwise or of two registers. -/
  | or
  /-- Bitwise and of two registers. -/
  | and
  /-- Bitwise exclusive or of two registers. -/
  | xor
  /-- Add two registers; the flag is the carry. -/
  | add
  /-- Subtract the second register from the first; the flag says that the first was greater. -/
  | sub
  /-- Shift right; the flag is the bit that falls out. -/
  | shiftRight
  /-- Subtract the first register from the second; the flag says that the second was greater. -/
  | subFrom
  /-- Shift left; the flag is the bit that falls out. -/
  | shiftLeft
  /-- Skip the next instruction if two registers differ. -/
  | skipNe
  /-- Load an address into the index register. -/
  | loadIndex
  /-- Jump to an address plus the first register. -/
  | jumpOffset
  /-- Load a random byte, masked. -/
  | random
  /-- Draw a sprite; the flag says that a lit pixel was put out. -/
  | draw
  /-- Skip the next instruction if a key is pressed. -/
  | skipPressed
  /-- Skip the next instruction if a key is not pressed. -/
  | skipReleased
  /-- Read the delay timer. -/
  | readDelay
  /-- Wait until a key is released and load its number. -/
  | awaitKey
  /-- Set the delay timer. -/
  | setDelay
  /-- Set the sound timer. -/
  | setSound
  /-- Add a register to the index register. -/
  | addIndex
  /-- Point the index register at the glyph of a hexadecimal digit. -/
  | glyph
  /-- Store the three decimal digits of a register. -/
  | decimal
  /-- Store the first registers in memory. -/
  | store
  /-- Load the first registers from memory. -/
  | restore
deriving DecidableEq, Repr

/-- One line of the instruction table. -/
structure Pattern where
  /-- What a matching word does. -/
  operation : Operation
  /-- The bits under the mask. -/
  value : UInt16
  /-- Which bits are looked at. -/
  mask : UInt16
deriving DecidableEq, Repr

namespace Pattern

/-- A word matches when its masked bits are the value. -/
def Matches (p : Pattern) (w : Word) : Prop := w &&& p.mask = p.value

instance (p : Pattern) (w : Word) : Decidable (p.Matches w) :=
  inferInstanceAs (Decidable (_ = _))

end Pattern

/-- The instruction table. -/
def instructionSet : List Pattern :=
  [ ⟨.clear, 0x00E0, 0xFFFF⟩,
    ⟨.ret, 0x00EE, 0xFFFF⟩,
    ⟨.sys, 0x0000, 0xF000⟩,
    ⟨.jump, 0x1000, 0xF000⟩,
    ⟨.call, 0x2000, 0xF000⟩,
    ⟨.skipEqByte, 0x3000, 0xF000⟩,
    ⟨.skipNeByte, 0x4000, 0xF000⟩,
    ⟨.skipEq, 0x5000, 0xF00F⟩,
    ⟨.loadByte, 0x6000, 0xF000⟩,
    ⟨.addByte, 0x7000, 0xF000⟩,
    ⟨.copy, 0x8000, 0xF00F⟩,
    ⟨.or, 0x8001, 0xF00F⟩,
    ⟨.and, 0x8002, 0xF00F⟩,
    ⟨.xor, 0x8003, 0xF00F⟩,
    ⟨.add, 0x8004, 0xF00F⟩,
    ⟨.sub, 0x8005, 0xF00F⟩,
    ⟨.shiftRight, 0x8006, 0xF00F⟩,
    ⟨.subFrom, 0x8007, 0xF00F⟩,
    ⟨.shiftLeft, 0x800E, 0xF00F⟩,
    ⟨.skipNe, 0x9000, 0xF00F⟩,
    ⟨.loadIndex, 0xA000, 0xF000⟩,
    ⟨.jumpOffset, 0xB000, 0xF000⟩,
    ⟨.random, 0xC000, 0xF000⟩,
    ⟨.draw, 0xD000, 0xF000⟩,
    ⟨.skipPressed, 0xE09E, 0xF0FF⟩,
    ⟨.skipReleased, 0xE0A1, 0xF0FF⟩,
    ⟨.readDelay, 0xF007, 0xF0FF⟩,
    ⟨.awaitKey, 0xF00A, 0xF0FF⟩,
    ⟨.setDelay, 0xF015, 0xF0FF⟩,
    ⟨.setSound, 0xF018, 0xF0FF⟩,
    ⟨.addIndex, 0xF01E, 0xF0FF⟩,
    ⟨.glyph, 0xF029, 0xF0FF⟩,
    ⟨.decimal, 0xF033, 0xF0FF⟩,
    ⟨.store, 0xF055, 0xF0FF⟩,
    ⟨.restore, 0xF065, 0xF0FF⟩ ]

/-- The operation of the first entry of a table that the word matches. -/
def firstMatch? (table : List Pattern) (w : Word) : Option Operation :=
  (table.find? fun p => p.Matches w).map Pattern.operation

/-- What a word means, `none` when it is not an instruction. -/
def Word.operation? (w : Word) : Option Operation :=
  firstMatch? instructionSet w

end Chip8
