/-!
# Instruction words

An instruction is one 16-bit word. Its operands sit at fixed places: the low twelve bits are an
address, the second and third hexadecimal digits name the registers `x` and `y`, the low eight bits
are a literal byte and the low four bits a literal nibble.
-/

namespace Chip8

/-- A 16-bit instruction word. -/
abbrev Word := UInt16

/-- The number of one of the sixteen registers. -/
abbrev RegisterIndex := Fin 16

namespace Word

/-- Every instruction takes two bytes. -/
def width : UInt16 := 2

/-- The word with the given high and low byte. -/
def ofBytes (high low : UInt8) : Word :=
  high.toUInt16 <<< 8 ||| low.toUInt16

/-- The high byte, which stands first in memory. -/
def highByte (w : Word) : UInt8 := (w >>> 8).toUInt8

/-- The address operand `nnn`: the low twelve bits. -/
def addr (w : Word) : UInt16 := w &&& 0x0FFF

/-- The byte operand `kk`: the low eight bits. -/
def byte (w : Word) : UInt8 := w.toUInt8

/-- Hexadecimal digit `place` of the word, digit 0 being the last one. -/
def nibbleAt (w : Word) (place : Nat) : Fin 16 :=
  ⟨w.toNat >>> (4 * place) % 16, Nat.mod_lt _ (by decide)⟩

/-- The register operand `x`: the second hexadecimal digit. -/
def x (w : Word) : RegisterIndex := w.nibbleAt 2

/-- The register operand `y`: the third hexadecimal digit. -/
def y (w : Word) : RegisterIndex := w.nibbleAt 1

/-- The nibble operand `n`: the last hexadecimal digit. -/
def nibble (w : Word) : Fin 16 := w.nibbleAt 0

end Word

end Chip8
