import Chip8.Machine
import Chip8.Text.Numeral

/-!
# Loading a program

A program image is read from a byte stream and put into memory at `programStart`, behind the font. No
more bytes are taken from the stream than are needed to see that an image is too large, so an endless
stream is refused like any other large one.

A stream is the list of what reading it yields, one outcome a read; behind the end of the list the
stream is at its end. Interruptions are retried and so leave no trace in the result.
-/

namespace Chip8

/-- What one read from a stream yields. -/
inductive ReadOutcome
  /-- Some bytes; no bytes mean the end of the stream. -/
  | chunk (bytes : List UInt8)
  /-- The read was interrupted and can be tried again. -/
  | interrupted
  /-- The stream failed for good. -/
  | failed (reason : String)
deriving DecidableEq, Repr

/-- What was taken from a stream. -/
structure Intake where
  /-- The bytes, in order. -/
  bytes : List UInt8
  /-- Why reading stopped before the end of the stream, if it did so by a failure. -/
  failure : Option String
deriving DecidableEq, Repr

/-- Reads a stream to its end, to its failure or until `limit` bytes were taken, whichever comes
first. -/
def Intake.ofStream (limit : Nat) : List ReadOutcome → Intake
  | [] => ⟨[], none⟩
  | .interrupted :: rest => if limit = 0 then ⟨[], none⟩ else ofStream limit rest
  | .failed reason :: _ => if limit = 0 then ⟨[], none⟩ else ⟨[], some reason⟩
  | .chunk bytes :: rest =>
    if bytes = [] then ⟨[], none⟩
    else
      let taken := bytes.take limit
      let later := ofStream (limit - taken.length) rest
      { later with bytes := taken ++ later.bytes }

/-- Where programs start in memory. -/
def programStart : UInt16 := 0x200

/-- The most bytes a program may have. -/
def maxRomSize : Nat := memorySize - programStart.toNat

/-- Why a program could not be loaded. -/
inductive RomError
  /-- The stream failed. -/
  | unreadable (reason : String)
  /-- The program does not fit; `size` is the number of bytes seen. -/
  | tooLarge (size : Nat)
deriving DecidableEq, Repr

namespace RomError

/-- What is reported about a program that could not be loaded, from the outermost text to its last
cause. -/
def messages : RomError → List String
  | .unreadable reason => ["error loading rom", reason]
  | .tooLarge size =>
    ["rom is too large (" ++ Numeral.decimal size ++ " bytes), max size is " ++
      Numeral.decimal maxRomSize ++ " bytes"]

end RomError

/-- The glyphs of the sixteen hexadecimal digits, five bytes each. -/
def font : List UInt8 :=
  [ 0xF0, 0x90, 0x90, 0x90, 0xF0,
    0x20, 0x60, 0x20, 0x20, 0x70,
    0xF0, 0x10, 0xF0, 0x80, 0xF0,
    0xF0, 0x10, 0xF0, 0x10, 0xF0,
    0x90, 0x90, 0xF0, 0x10, 0x10,
    0xF0, 0x80, 0xF0, 0x10, 0xF0,
    0xF0, 0x80, 0xF0, 0x90, 0xF0,
    0xF0, 0x10, 0x20, 0x40, 0x40,
    0xF0, 0x90, 0xF0, 0x90, 0xF0,
    0xF0, 0x90, 0xF0, 0x10, 0xF0,
    0xF0, 0x90, 0xF0, 0x90, 0x90,
    0xE0, 0x90, 0xE0, 0x90, 0xE0,
    0xF0, 0x80, 0x80, 0x80, 0xF0,
    0xE0, 0x90, 0x90, 0x90, 0xE0,
    0xF0, 0x80, 0xF0, 0x80, 0xF0,
    0xF0, 0x80, 0xF0, 0x80, 0x80 ]

/-- Memory with the font at its beginning and a program at `programStart`. -/
def Memory.ofProgram (program : List UInt8) : Memory :=
  (Memory.zero.writeMany 0 font).writeMany programStart program

namespace Machine

/-- A machine about to execute a program. -/
def ofProgram (program : List UInt8) (random : RandomSource) : Machine where
  registers := .zero
  index := 0
  pc := programStart
  memory := .ofProgram program
  stack := .empty
  timers := .zero
  display := .blank
  keys := 0
  lastKeys := 0
  random := random

/-- Loads a program from what was taken from a stream. A program that is too large is refused even if
the stream failed afterwards. -/
def ofIntake (intake : Intake) (random : RandomSource) : Except RomError Machine :=
  if maxRomSize < intake.bytes.length then .error (.tooLarge intake.bytes.length)
  else match intake.failure with
    | some reason => .error (.unreadable reason)
    | none => .ok (.ofProgram intake.bytes random)

/-- Loads a program from a stream. One byte more than fits is enough to see that it is too large. -/
def load (stream : List ReadOutcome) (random : RandomSource) : Except RomError Machine :=
  ofIntake (.ofStream (maxRomSize + 1) stream) random

/-- A machine that was loaded is about to execute a program. -/
theorem exists_program_of_load {stream : List ReadOutcome} {random : RandomSource} {m : Machine}
    (h : load stream random = .ok m) : ∃ program, m = .ofProgram program random := by
  rw [load, ofIntake] at h
  split at h
  · exact absurd h (by simp)
  · split at h
    · exact absurd h (by simp)
    · exact ⟨_, (Except.ok.inj h).symm⟩

end Machine

end Chip8
