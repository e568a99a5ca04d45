/-!
# Escape sequences

Text without its escape sequences and control characters, as it is shown where no terminal
interprets them. Line breaks, tabs and form feeds are shown.

An escape sequence starts with the escape character. What follows it says of which kind the sequence
is and thus where it ends; cancel and substitute end one of any kind. A sequence that does not end
takes the rest of the text with it.

`Escape.visible` is the text that is shown.
-/

namespace Chip8.Text

namespace Escape

/-- How far an escape sequence has been read. -/
inductive Progress
  /-- There is none. -/
  | outside
  /-- The escape character has been read. -/
  | started
  /-- Characters that lead up to the last one have been read as well. -/
  | intermediate
  /-- A control sequence is being read. -/
  | control
  /-- A device control string has started. -/
  | deviceStart
  /-- The parameters of a device control string are being read. -/
  | deviceParameters
  /-- Characters that lead up to the data of a device control string have been read. -/
  | deviceIntermediate
  /-- The data of a device control string are being read. -/
  | deviceData
  /-- An operating system command is being read. -/
  | systemCommand
  /-- A string, a privacy message or a program command is being read. -/
  | message
deriving DecidableEq, Repr

/-- A character lies between two others. -/
def within (first last c : Char) : Bool := decide (first ≤ c) && decide (c ≤ last)

/-- The character moves on in the text and leaves no mark. -/
def isLayout (c : Char) : Bool := c == '\t' || c == '\n' || c == '\x0c' || c == '\r'

/-- The byte `9C`, which ends a string, is one of those that make up the character. -/
def hasTerminator (c : Char) : Bool := (String.utf8EncodeChar c).contains 0x9C

namespace Progress

/-- Reads a character. -/
def next (s : Progress) (c : Char) : Progress :=
  if c = '\x18' ∨ c = '\x1a' then .outside
  else if c = '\x1b' then .started
  else match s with
    | .outside => .outside
    | .started =>
      if within ' ' '/' c then .intermediate
      else if c = '[' then .control
      else if c = ']' then .systemCommand
      else if c = 'P' then .deviceStart
      else if c = 'X' ∨ c = '^' ∨ c = '_' then .message
      else if within '0' '~' c then .outside
      else .started
    | .intermediate => if within '0' '~' c then .outside else .intermediate
    | .control => if within '@' '~' c then .outside else .control
    | .deviceStart =>
      if within ' ' '/' c then .deviceIntermediate
      else if within '0' '?' c then .deviceParameters
      else if within '@' '~' c then .deviceData
      else .deviceStart
    | .deviceParameters =>
      if within ' ' '/' c then .deviceIntermediate
      else if within '<' '~' c then .deviceData
      else .deviceParameters
    | .deviceIntermediate => if within '0' '~' c then .deviceData else .deviceIntermediate
    | .deviceData => if hasTerminator c then .outside else .deviceData
    | .message => if hasTerminator c then .outside else .message
    | .systemCommand => if c = '\x07' then .outside else .systemCommand

/-- A character that comes now is shown: outside of sequences everything but control characters, and
layout also inside of those that are no strings. -/
def shows (s : Progress) (c : Char) : Bool :=
  match s with
  | .outside => isLayout c || (decide (' ' ≤ c) && c != '\x7f')
  | .started | .intermediate | .control => isLayout c
  | .deviceStart | .deviceParameters | .deviceIntermediate | .deviceData | .systemCommand
  | .message => false

end Progress

/-- What decides whether a character is shown: while characters pass, what can be shown outside. -/
def gate (passing : Bool) (s : Progress) : Progress := if passing then .outside else s

/-- The characters that are shown. While characters pass, everything that can be shown outside of
sequences is: layout inside of a sequence thus has what follows it shown too. Reading goes on inside
of the sequence at the next character that cannot be shown, unless one beyond ASCII has passed. -/
def visibleFrom (s : Progress) (passing : Bool) : List Char → List Char
  | [] => []
  | c :: rest =>
    if (gate passing s).shows c then
      c :: visibleFrom (if c.toNat < 0x80 then s else .outside) true rest
    else visibleFrom (s.next c) false rest

/-- A text without its escape sequences and control characters. -/
def visible (text : List Char) : List Char := visibleFrom .outside false text

end Escape

end Chip8.Text
