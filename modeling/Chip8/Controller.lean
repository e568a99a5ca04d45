import Chip8.Command
import Chip8.Text.Blank
import Chip8.Text.Integer
import Chip8.Text.Quoted

/-!
# The controller language

A session is steered by lines of text, one command a line. Only the words of a line count; a blank
line asks for nothing. What is wrong with a line is found from left to right: first the command, then
its argument, then words that are too many.
-/

namespace Chip8.Controller

/-- What is wrong with a line. -/
inductive LineError
  /-- There is no such command. -/
  | unknownCommand (word : List Char)
  /-- The key mask is missing. -/
  | missingMask
  /-- The key mask is not a number. -/
  | invalidMask (word : List Char) (reason : Text.IntegerError)
  /-- A word is too much. -/
  | unexpectedArgument (word : List Char)
deriving DecidableEq, Repr

/-- The text of a line error. -/
def LineError.message : LineError → String
  | .unknownCommand word => "unknown command " ++ Text.quoted word
  | .missingMask => "missing key bitmask"
  | .invalidMask word reason =>
    "invalid key bitmask " ++ Text.quoted word ++ ": " ++ reason.message
  | .unexpectedArgument word => "unexpected argument " ++ Text.quoted word

/-- A number without the `0x` before it, however often that is written. -/
def dropBaseMarks : List Char → List Char
  | '0' :: 'x' :: rest => dropBaseMarks rest
  | text => text

/-- Reads a key mask, a hexadecimal number of sixteen bits. -/
def readMask (word : List Char) : Except LineError KeyMask :=
  match Text.readNatural 16 0xFFFF (dropBaseMarks word) with
  | .ok mask => .ok mask.toUInt16
  | .error reason => .error (.invalidMask word reason)

/-- Refuses words that are too many. -/
def finish (command : Command) : List (List Char) → Except LineError Command
  | [] => .ok command
  | extra :: _ => .error (.unexpectedArgument extra)

/-- The command that words stand for. -/
def ofWords : List (List Char) → Except LineError (Option Command)
  | [] => .ok none
  | verb :: arguments =>
    some <$>
      if verb = ['p'] ∨ verb = ['p', 'a', 'u', 's', 'e'] then finish .pause arguments
      else if verb = ['s'] ∨ verb = ['s', 't', 'e', 'p'] then finish .step arguments
      else if verb = ['q'] ∨ verb = ['q', 'u', 'i', 't'] then finish .close arguments
      else if verb = ['k'] ∨ verb = ['k', 'e', 'y', 's'] then
        match arguments with
        | [] => .error .missingMask
        | mask :: others => do
          let keys ← readMask mask
          finish (.setKeys keys) others
      else .error (.unknownCommand verb)

/-- Reads a line: the command that it stands for, if it is not blank. -/
def parse (line : List Char) : Except LineError (Option Command) :=
  ofWords (Text.words line)

end Chip8.Controller
