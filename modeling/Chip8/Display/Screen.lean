import Chip8.Display
import Chip8.Text.Numeral

/-!
# Showing a frame

A frame is shown as text, a block for a lit pixel and a space for a dark one. On a terminal it stands
in a box, after the sequence that moves the cursor home, so that each picture paints over the last.
A terminal may take only part of what it is sent; writing then fails after the part it took.
-/

namespace Chip8

namespace Frame

/-- The character of a pixel. -/
def glyph (lit : Bool) : Char := if lit then '█' else ' '

/-- The characters of row `y`. -/
def lineChars (f : Frame) (y : Nat) : List Char :=
  (List.range screenWidth).map fun x => glyph (f.bitmap.pixel x y)

/-- The rows as lines of text, top to bottom. -/
def lines (f : Frame) : List String :=
  (List.range screenHeight).map fun y => String.ofList (f.lineChars y)

/-- The picture as text, every row ended by a line feed. -/
def text (f : Frame) : String :=
  String.join (f.lines.map (· ++ "\n"))

/-- The bits of the picture, byte by byte, under a line that gives the flag. -/
def bitText (f : Frame) : String :=
  let row (r : PixelRow) : String :=
    String.join ((Bitmap.rowBytes r).map fun b => Numeral.binary 8 b.toNat ++ "|") ++ "\n"
  "Frame \x7b dirty: " ++ (if f.dirty then "true" else "false") ++ " \x7d\n" ++
    String.join (f.bitmap.rows.toList.map row)

/-- Moves the cursor of the terminal to its upper left corner. -/
def cursorHome : String := "\x1b[H"

/-- The horizontal edge of the box. -/
def edge : String := String.ofList (List.replicate screenWidth '─')

/-- What a terminal is sent to show the frame. -/
def screen (f : Frame) : String :=
  cursorHome ++ "┌" ++ edge ++ "┐\r\n" ++
    String.join (f.lines.map fun line => "│" ++ line ++ "│\r\n") ++
    "└" ++ edge ++ "┘\r\n"

end Frame

/-- Why a terminal did not show a picture. -/
inductive TerminalError
  /-- The terminal takes no more bytes. -/
  | full
  /-- The terminal can no longer be written to; the text says why. -/
  | broken (reason : String)
deriving DecidableEq, Repr

/-- The text of a terminal error. -/
def TerminalError.message : TerminalError → String
  | .full => "failed to write whole buffer"
  | .broken reason => reason

/-- A terminal that takes a limited number of bytes. -/
structure BoundedTerminal where
  /-- How many more bytes it takes. -/
  room : Nat
  /-- What it has taken, in order. -/
  received : List UInt8
deriving DecidableEq

namespace BoundedTerminal

/-- A terminal that has taken nothing and takes `room` bytes. -/
def ofRoom (room : Nat) : BoundedTerminal := ⟨room, []⟩

/-- Sends bytes. The terminal takes as many as it has room for, and the sending fails if some are
left. -/
def write (t : BoundedTerminal) (bytes : List UInt8) : Except TerminalError Unit × BoundedTerminal :=
  let after : BoundedTerminal := ⟨t.room - bytes.length, t.received ++ bytes.take t.room⟩
  if bytes.length ≤ t.room then (.ok (), after) else (.error .full, after)

/-- Shows a frame. -/
def paint (t : BoundedTerminal) (f : Frame) : Except TerminalError Unit × BoundedTerminal :=
  t.write f.screen.toUTF8.toList

end BoundedTerminal

end Chip8
