import Chip8.Machine
import Chip8.Fault

/-!
# Executing instructions

One cycle fetches the word at the program counter, looks up its operation and executes it. A cycle
that fails leaves the machine as it was; one that succeeds remembers the keys that were held.

Flags are computed from the operands as they were before the instruction and are written last, so
they win when the flag register is also the destination.
-/

namespace Chip8

/-- An instruction that was executed. -/
structure Executed where
  /-- Where it was fetched from. -/
  pc : UInt16
  /-- The instruction. -/
  word : Word
deriving DecidableEq, Repr

/-- The length of a glyph of the font. -/
def glyphLength : UInt16 := 5

namespace Machine

/-- The word at the program counter, high byte first. -/
def fetch (m : Machine) : Word :=
  Word.ofBytes (m.memory.read m.pc) (m.memory.read (m.pc + 1))

/-- Goes on to the next instruction. -/
def next (m : Machine) : Machine := { m with pc := m.pc + Word.width }

/-- Goes on, leaving out the next instruction if the condition holds. -/
def skipIf (m : Machine) (condition : Bool) : Machine :=
  { m with pc := m.pc + (if condition then Word.width * 2 else Word.width) }

/-- The decimal digits of a byte: hundreds, tens, units. -/
def decimalDigits (b : UInt8) : List UInt8 := [b / 100, b / 10 % 10, b % 10]

/-- Draws the sprite at the index register; the flag says that a lit pixel was put out. -/
def drawSprite (m : Machine) (x y : RegisterIndex) (height : Nat) : Machine :=
  let sprite := m.memory.readMany m.index height
  let (collision, display) := m.display.draw sprite (m.reg x) (m.reg y)
  { m with display := display, registers := m.registers.setFlag collision }

/-- Loads the number of the lowest key that was held in the last cycle and is not held now, and goes
on; stays at the instruction while there is none. -/
def awaitKey (m : Machine) (x : RegisterIndex) : Machine :=
  match (KeyMask.released m.lastKeys m.keys).lowest? with
  | some key => (m.setReg x key.val.toUInt8).next
  | none => m

/-- Executes one operation with the operands of its word. -/
def execute (m : Machine) (w : Word) : Operation → Except Fault Machine
  | .clear => .ok { m with display := m.display.clear }.next
  | .ret => .ok { m with pc := m.stack.top, stack := m.stack.drop }
  | .sys => .ok m.next
  | .jump => .ok { m with pc := w.addr }
  | .call => .ok { m with pc := w.addr, stack := m.stack.push (m.pc + Word.width) }
  | .skipEqByte => .ok (m.skipIf (m.reg w.x == w.byte))
  | .skipNeByte => .ok (m.skipIf (m.reg w.x != w.byte))
  | .skipEq => .ok (m.skipIf (m.reg w.x == m.reg w.y))
  | .skipNe => .ok (m.skipIf (m.reg w.x != m.reg w.y))
  | .loadByte => .ok (m.setReg w.x w.byte).next
  | .addByte => .ok (m.setReg w.x (m.reg w.x + w.byte)).next
  | .copy => .ok (m.setReg w.x (m.reg w.y)).next
  | .or => .ok (m.setRegFlag w.x (m.reg w.x ||| m.reg w.y) false).next
  | .and => .ok (m.setRegFlag w.x (m.reg w.x &&& m.reg w.y) false).next
  | .xor => .ok (m.setRegFlag w.x (m.reg w.x ^^^ m.reg w.y) false).next
  | .add =>
    let carry := decide ((m.reg w.x).toNat + (m.reg w.y).toNat > 255)
    .ok (m.setRegFlag w.x (m.reg w.x + m.reg w.y) carry).next
  | .sub => .ok (m.setRegFlag w.x (m.reg w.x - m.reg w.y) (m.reg w.x > m.reg w.y)).next
  | .subFrom => .ok (m.setRegFlag w.x (m.reg w.y - m.reg w.x) (m.reg w.y > m.reg w.x)).next
  | .shiftRight => .ok (m.setRegFlag w.x (m.reg w.y >>> 1) (m.reg w.y &&& 0x01 == 0x01)).next
  | .shiftLeft => .ok (m.setRegFlag w.x (m.reg w.y <<< 1) (m.reg w.y &&& 0x80 == 0x80)).next
  | .loadIndex => .ok { m with index := w.addr }.next
  | .jumpOffset => .ok { m with pc := w.addr + (m.reg Registers.first).toUInt16 }
  | .random =>
    match m.random.drawByte? with
    | some (byte, random) =>
      .ok ({ m with random := random }.setReg w.x (byte &&& w.byte)).next
    | none => .error .randomFailed
  | .draw => .ok (m.drawSprite w.x w.y w.nibble).next
  | .skipPressed => .ok (m.skipIf (m.keys.holds (m.reg w.x).toNat))
  | .skipReleased => .ok (m.skipIf (!m.keys.holds (m.reg w.x).toNat))
  | .readDelay => .ok (m.setReg w.x m.timers.delay).next
  | .awaitKey => .ok (m.awaitKey w.x)
  | .setDelay => .ok { m with timers := { m.timers with delay := m.reg w.x } }.next
  | .setSound => .ok { m with timers := { m.timers with sound := m.reg w.x } }.next
  | .addIndex => .ok { m with index := m.index + (m.reg w.x).toUInt16 }.next
  | .glyph => .ok { m with index := (m.reg w.x).toUInt16 * glyphLength }.next
  | .decimal =>
    .ok { m with memory := m.memory.writeMany m.index (decimalDigits (m.reg w.x)) }.next
  | .store =>
    .ok { m with
      memory := m.memory.writeMany m.index (m.registers.upTo w.x)
      index := m.index + (w.x.val + 1).toUInt16 }.next
  | .restore =>
    .ok { m with
      registers := m.registers.overwrite (m.memory.readMany m.index (w.x + 1))
      index := m.index + (w.x.val + 1).toUInt16 }.next

/-- Executes the instruction at the program counter. -/
def cycle (m : Machine) : Except Fault Executed × Machine :=
  let word := m.fetch
  match word.operation? with
  | none => (.error (.unrecognised word), m)
  | some operation =>
    match m.execute word operation with
    | .error fault => (.error fault, m)
    | .ok after => (.ok ⟨m.pc, word⟩, { after with lastKeys := m.keys })

end Machine

/-- How a number of cycles went. -/
structure CycleRun where
  /-- How many cycles succeeded. -/
  succeeded : Nat
  /-- How the last cycle went, if there was one. -/
  last : Option (Except Fault Executed)
  /-- The machine afterwards. -/
  machine : Machine

namespace CycleRun

/-- The last cycle failed. -/
def hasFailed (r : CycleRun) : Bool :=
  match r.last with
  | some (.error _) => true
  | some (.ok _) | none => false

/-- One more cycle. -/
def advance (r : CycleRun) : CycleRun :=
  match r.machine.cycle with
  | (.ok executed, machine) => ⟨r.succeeded + 1, some (.ok executed), machine⟩
  | (.error fault, machine) => ⟨r.succeeded, some (.error fault), machine⟩

/-- More cycles, until `count` of them have succeeded or one has failed. -/
def extend : (count : Nat) → CycleRun → CycleRun
  | 0, r => r
  | count + 1, r => if r.hasFailed then r else extend count r.advance

end CycleRun

/-- Cycles until `count` of them have succeeded or one has failed. -/
def Machine.run (m : Machine) (count : Nat) : CycleRun :=
  .extend count ⟨0, none, m⟩

end Chip8
