/-!
# Lines

Bytes as lines of text. A line is ended by a line feed, of which a carriage return right before it is
a part; what stands behind the last line feed is a line too, unless it is empty. A line may fail to be
text: its bytes have to be UTF-8.
-/

namespace Chip8.Text

/-- The lines that are ended by a line feed, without it, and the bytes behind the last one. -/
def splitLines : List UInt8 → List (List UInt8) × List UInt8
  | [] => ([], [])
  | byte :: rest =>
    let (lines, tail) := splitLines rest
    if byte = 0x0A then ([] :: lines, tail)
    else match lines with
      | line :: others => ((byte :: line) :: others, tail)
      | [] => ([], byte :: tail)

/-- A line without a carriage return at its end. -/
def dropReturn (line : List UInt8) : List UInt8 :=
  if line.getLast? = some 0x0D then line.dropLast else line

/-- The lines as bytes. -/
def lineBytes (bytes : List UInt8) : List (List UInt8) :=
  let (lines, tail) := splitLines bytes
  lines.map dropReturn ++ (if tail = [] then [] else [tail])

/-- The characters of a line, `none` if it is not UTF-8. -/
def decodeLine? (line : List UInt8) : Option (List Char) :=
  (String.fromUTF8? ⟨line.toArray⟩).map String.toList

/-- The lines as text. -/
def lines (bytes : List UInt8) : List (Option (List Char)) :=
  (lineBytes bytes).map decodeLine?

end Chip8.Text
