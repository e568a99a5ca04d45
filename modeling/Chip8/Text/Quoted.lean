import Chip8.Text.Combining
import Chip8.Text.Numeral

/-!
# Quoted text

Text between quotation marks, in a form in which every character can be told: quotation marks and
backslashes have a backslash before them, common control characters have a letter each, and other
characters that are unprintable or combining are given by their code point.
-/

namespace Chip8.Text

/-- How many hexadecimal digits a number needs; zero needs one. -/
def hexWidth (n : Nat) : Nat := if n < 16 then 1 else hexWidth (n / 16) + 1

/-- A character by its code point. -/
def codePoint (c : Char) : List Char :=
  ['\\', 'u', '\x7b'] ++ Numeral.digits Numeral.smalls 16 (hexWidth c.toNat) c.toNat ++ ['\x7d']

/-- A character as it stands between quotation marks. -/
def quoteChar (c : Char) : List Char :=
  if c = '\x00' then ['\\', '0']
  else if c = '\t' then ['\\', 't']
  else if c = '\r' then ['\\', 'r']
  else if c = '\n' then ['\\', 'n']
  else if c = '"' then ['\\', '"']
  else if c = '\\' then ['\\', '\\']
  else if isCombining c || isUnprintable c then codePoint c
  else [c]

/-- A text between quotation marks. -/
def quoted (text : List Char) : String :=
  "\"" ++ String.ofList (text.flatMap quoteChar) ++ "\""

end Chip8.Text
