/-!
# Blanks and words

Words are separated by characters with the property `White_Space`. Splitting a text into words drops
the blanks and never yields an empty word.
-/

namespace Chip8.Text

/-- The character has the property `White_Space`. -/
def isBlank (c : Char) : Bool :=
  let code := c.toNat
  decide (0x9 ≤ code ∧ code ≤ 0xD) || code == 0x20 || code == 0x85 || code == 0xA0 ||
    code == 0x1680 || decide (0x2000 ≤ code ∧ code ≤ 0x200A) || code == 0x2028 || code == 0x2029 ||
    code == 0x202F || code == 0x205F || code == 0x3000

/-- Puts a word in front of others, unless it is empty. -/
def consWord (word : List Char) (others : List (List Char)) : List (List Char) :=
  if word = [] then others else word :: others

/-- The characters up to the first blank, which may be none, and the words behind it. -/
def firstAndOthers : List Char → List Char × List (List Char)
  | [] => ([], [])
  | c :: rest =>
    let (word, others) := firstAndOthers rest
    if isBlank c then ([], consWord word others) else (c :: word, others)

/-- The words of a text, in order. -/
def words (text : List Char) : List (List Char) :=
  let (word, others) := firstAndOthers text
  consWord word others

end Chip8.Text
