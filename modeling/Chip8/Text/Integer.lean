/-!
# Reading integers

Reading a number of limited size, digit by digit from the left. The first thing that is wrong is
reported: a character that is no digit, or a value that has grown beyond the limits. At one and the
same character the first of these wins.
-/

namespace Chip8.Text

/-- Why a text is not a number. -/
inductive IntegerError
  /-- There is nothing to read. -/
  | empty
  /-- A character is no digit. -/
  | invalidDigit
  /-- The number is above the limit. -/
  | tooLarge
  /-- The number is below the limit. -/
  | tooSmall
deriving DecidableEq, Repr

/-- The text of a reading error. -/
def IntegerError.message : IntegerError → String
  | .empty => "cannot parse integer from empty string"
  | .invalidDigit => "invalid digit found in string"
  | .tooLarge => "number too large to fit in target type"
  | .tooSmall => "number too small to fit in target type"

/-- The value of a digit; letters of either case stand for ten and more. -/
def digitValue? (base : Nat) (c : Char) : Option Nat :=
  let value? :=
    if '0' ≤ c ∧ c ≤ '9' then some (c.toNat - '0'.toNat)
    else if 'a' ≤ c ∧ c ≤ 'z' then some (c.toNat - 'a'.toNat + 10)
    else if 'A' ≤ c ∧ c ≤ 'Z' then some (c.toNat - 'A'.toNat + 10)
    else none
  value?.bind fun value => if value < base then some value else none

/-- Reads digits behind those that have made up `value`, with `excess` as the error for a value above
`limit`. -/
def readDigits (base limit : Nat) (excess : IntegerError) (value : Nat) :
    List Char → Except IntegerError Nat
  | [] => .ok value
  | c :: rest =>
    match digitValue? base c with
    | none => .error .invalidDigit
    | some digit =>
      let value := value * base + digit
      if limit < value then .error excess else readDigits base limit excess value rest

/-- Reads a number from zero to `limit`, which may have one plus sign before it. -/
def readNatural (base limit : Nat) : List Char → Except IntegerError Nat
  | [] => .error .empty
  | ['+'] => .error .invalidDigit
  | '+' :: digits => readDigits base limit .tooLarge 0 digits
  | digits => readDigits base limit .tooLarge 0 digits

/-- Reads a number from `-(limit + 1)` to `limit`, which may have one sign before it. -/
def readInteger (base limit : Nat) : List Char → Except IntegerError Int
  | [] => .error .empty
  | ['+'] => .error .invalidDigit
  | ['-'] => .error .invalidDigit
  | '+' :: digits => (readDigits base limit .tooLarge 0 digits).map Int.ofNat
  | '-' :: digits => (readDigits base (limit + 1) .tooSmall 0 digits).map fun n => -Int.ofNat n
  | digits => (readDigits base limit .tooLarge 0 digits).map Int.ofNat

end Chip8.Text
