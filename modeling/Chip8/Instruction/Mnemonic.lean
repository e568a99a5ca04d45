import Chip8.Instruction
import Chip8.Text.Numeral

/-!
# Mnemonics

Every operation is written after a form. In a form the small letters `p`, `x`, `y` and `n` stand for
the first to the last hexadecimal digit of the word, and every other character for itself: `LD Vx, yn`
puts the second digit behind `V` and the last two digits behind the comma. Since a form shows exactly
the digits that its operation leaves free, a word can be read back from its mnemonic.
-/

namespace Chip8

/-- How an operation is written. -/
def Operation.form : Operation → String
  | .clear => "CLS"
  | .ret => "RET"
  | .sys => "SYS xyn"
  | .jump => "JP xyn"
  | .call => "CALL xyn"
  | .skipEqByte => "SE Vx, yn"
  | .skipNeByte => "SNE Vx, yn"
  | .skipEq => "SE Vx, Vy"
  | .loadByte => "LD Vx, yn"
  | .addByte => "ADD Vx, yn"
  | .copy => "LD Vx, Vy"
  | .or => "OR Vx, Vy"
  | .and => "AND Vx, Vy"
  | .xor => "XOR Vx, Vy"
  | .add => "ADD Vx, Vy"
  | .sub => "SUB Vx, Vy"
  | .shiftRight => "SHR Vx, Vy"
  | .subFrom => "SUBN Vx, Vy"
  | .shiftLeft => "SHL Vx, Vy"
  | .skipNe => "SNE Vx, Vy"
  | .loadIndex => "LD I, xyn"
  | .jumpOffset => "JP V0, xyn"
  | .random => "RND Vx, yn"
  | .draw => "DRW Vx, Vy, n"
  | .skipPressed => "SKP Vx"
  | .skipReleased => "SKNP Vx"
  | .readDelay => "LD Vx, DT"
  | .awaitKey => "LD Vx, K"
  | .setDelay => "LD DT, Vx"
  | .setSound => "LD ST, Vx"
  | .addIndex => "ADD I, Vx"
  | .glyph => "LD F, Vx"
  | .decimal => "LD B, Vx"
  | .store => "LD [I], Vx"
  | .restore => "LD Vx, [I]"

namespace Word

/-- How a word that is no instruction is written: all four digits behind question marks. -/
def unrecognisedForm : String := "???? pxyn"

/-- The place of the digit that a letter of a form stands for. -/
def placeOf? : Char → Option Nat
  | 'p' => some 3
  | 'x' => some 2
  | 'y' => some 1
  | 'n' => some 0
  | _ => none

/-- One character of a form, filled in for the word. -/
def fillChar (w : Word) (c : Char) : Char :=
  match placeOf? c with
  | some place => Numeral.digit Numeral.capitals (w.nibbleAt place)
  | none => c

/-- A form filled in for the word. -/
def fill (w : Word) (form : String) : String :=
  String.ofList (form.toList.map w.fillChar)

/-- The form that a word is written after. -/
def form (w : Word) : String :=
  match w.operation? with
  | some operation => operation.form
  | none => unrecognisedForm

/-- The text of an instruction word. -/
def mnemonic (w : Word) : String := w.fill w.form

/-- The word as four hexadecimal digits. -/
def hex (w : Word) : String := Numeral.hexCapital 4 w.toNat

end Word

end Chip8
