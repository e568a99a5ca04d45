import Chip8.Text.Numeral

/-!
# Reports

An error is reported by its own text and the texts of its causes, outermost first. On one line they
are joined by colons; a full report lists the causes below the error, with numbers if there are
several.
-/

namespace Chip8.Report

/-- The texts on one line. -/
def inline (messages : List String) : String := String.intercalate ": " messages

/-- The line of a cause that has a number. -/
def numbered (cause : String) (number : Nat) : String :=
  "    " ++ Numeral.decimal number ++ ": " ++ cause ++ "\n"

/-- The lines of the causes. -/
def causeLines : List String → String
  | [] => ""
  | [cause] => "\nCaused by:\n    " ++ cause ++ "\n"
  | causes => "\nCaused by:\n" ++ String.join (causes.zipIdx.map fun (cause, k) => numbered cause k)

/-- The full report. -/
def full : List String → String
  | [] => ""
  | outermost :: causes => "Error: " ++ outermost ++ "\n" ++ causeLines causes

end Chip8.Report
