/-!
# Numerals

Numbers as text. A machine word is written with a fixed number of digits, so that fields of a dump
or of a mnemonic can be found again by their position; a count is written with as many digits as it
needs, and possibly padded with zeros to a least width.

Everything is built from one function, `Numeral.digits`, which yields the last `width` digits of a
number in a given base, most significant first.
-/

namespace Chip8.Numeral

/-- The digit characters in order; letters are capital. -/
def capitals : List Char :=
  ['0', '1', '2', '3', '4', '5', '6', '7', '8', '9', 'A', 'B', 'C', 'D', 'E', 'F']

/-- The digit characters in order; letters are small. -/
def smalls : List Char :=
  ['0', '1', '2', '3', '4', '5', '6', '7', '8', '9', 'a', 'b', 'c', 'd', 'e', 'f']

/-- The character of digit `d` in an alphabet, a question mark where the alphabet has no such
digit. -/
def digit (alphabet : List Char) (d : Nat) : Char :=
  alphabet.getD d '?'

/-- The last `width` digits of `n` in base `base`, most significant first. -/
def digits (alphabet : List Char) (base : Nat) : (width : Nat) → (n : Nat) → List Char
  | 0, _ => []
  | width + 1, n => digits alphabet base width (n / base) ++ [digit alphabet (n % base)]

/-- There are exactly as many digits as asked for. -/
@[simp] theorem length_digits (alphabet : List Char) (base width n : Nat) :
    (digits alphabet base width n).length = width := by
  induction width generalizing n with
  | zero => rfl
  | succ width ih => simp [digits, ih]

/-- A number in hexadecimal digits with capital letters. -/
def hexCapital (width n : Nat) : String :=
  String.ofList (digits capitals 16 width n)

/-- A number in hexadecimal digits with small letters. -/
def hexSmall (width n : Nat) : String :=
  String.ofList (digits smalls 16 width n)

/-- A number in binary digits. -/
def binary (width n : Nat) : String :=
  String.ofList (digits smalls 2 width n)

/-- How many decimal digits `n` needs; zero needs one. -/
def decimalWidth (n : Nat) : Nat :=
  if n < 10 then 1 else decimalWidth (n / 10) + 1

/-- Decimal text of at least `least` digits, filled up with zeros in front. -/
def decimalPadded (least n : Nat) : String :=
  String.ofList (digits smalls 10 (max least (decimalWidth n)) n)

/-- Decimal text without leading zeros. -/
def decimal (n : Nat) : String :=
  decimalPadded 1 n

end Chip8.Numeral
