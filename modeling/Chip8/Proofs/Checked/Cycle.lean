import Chip8.Machine.Cycle
import Chip8.Proofs.Checked.Drawing
import Mathlib.Data.Nat.Bitwise

/-!
# Cycles with every index checked

A machine cannot leave its registers, its memory, its stack or its display, because the types of their
indices do not let it. Here an instruction is executed on plain numbers instead: the operands are cut
out of the word with masks, every index is compared with the size of what it indexes, every shift with
the width of what is shifted, and every sum and product that is not meant to wrap around with the
range of its type. If one of them is out of range there is no result. Main statement: there always is
one, and it is that of the cycle.
-/

namespace Chip8

open Checked

/-! ## Operands -/

namespace Word

/-- The number of the first register operand. -/
def xNumber (w : Word) : Nat := (w >>> 8 &&& 0x0F).toNat

/-- The number of the second register operand. -/
def yNumber (w : Word) : Nat := (w >>> 4 &&& 0x0F).toNat

/-- The height of a sprite. -/
def height (w : Word) : Nat := (w.byte &&& 0x0F).toNat

theorem toNat_and_fifteen (w : Word) : (w &&& 0x0F).toNat = w.toNat % 16 := by
  have h : (0x0F : UInt16).toNat = 2 ^ 4 - 1 := rfl
  rw [UInt16.toNat_and, h, Nat.and_two_pow_sub_one_eq_mod]

theorem xNumber_eq (w : Word) : w.xNumber = w.x := by
  rw [xNumber, toNat_and_fifteen, UInt16.toNat_shiftRight]
  rfl

theorem yNumber_eq (w : Word) : w.yNumber = w.y := by
  rw [yNumber, toNat_and_fifteen, UInt16.toNat_shiftRight]
  rfl

theorem height_eq (w : Word) : w.height = w.nibble := by
  have h : (0x0F : UInt8).toNat = 2 ^ 4 - 1 := rfl
  rw [height, UInt8.toNat_and, h, Nat.and_two_pow_sub_one_eq_mod, byte, UInt16.toNat_toUInt8]
  show w.toNat % 256 % 16 = w.toNat % 16
  omega

end Word

/-! ## Keys -/

/-- The mask of a single key, if there is such a key. -/
def Checked.keyBit? (key : Nat) : Option KeyMask := if key < 16 then some ⟨1 <<< key⟩ else none

/-- Whether a key is held; numbers from sixteen on are not shifted at all. -/
def KeyMask.holds? (keys : KeyMask) (key : UInt8) : Option Bool :=
  if key < 16 then do
    let bit ← keyBit? key.toNat
    some (keys &&& bit != 0)
  else some false

theorem KeyMask.holds?_eq_some (keys : KeyMask) (key : UInt8) :
    keys.holds? key = some (keys.holds key.toNat) := by
  rw [holds?]
  by_cases h : key < 16
  · have hkey : key.toNat < 16 := UInt8.lt_iff_toNat_lt.mp h
    have hpow : ((1 : BitVec 16) <<< key.toNat).toNat = 2 ^ key.toNat := by
      have hlt : 2 ^ key.toNat < 2 ^ 16 := Nat.pow_lt_pow_right (by decide) hkey
      rw [BitVec.toNat_shiftLeft]
      show 1 <<< key.toNat % 2 ^ 16 = 2 ^ key.toNat
      rw [Nat.one_shiftLeft, Nat.mod_eq_of_lt hlt]
    have hand : (keys &&& ⟨1 <<< key.toNat⟩).toNat =
        (keys.toNat.testBit key.toNat).toNat * 2 ^ key.toNat := by
      rw [UInt16.toNat_and, ← Nat.and_two_pow]
      exact congrArg (keys.toNat &&& ·) hpow
    rw [if_pos h, keyBit?, if_pos hkey]
    show some (keys &&& ⟨1 <<< key.toNat⟩ != 0) = some (keys.toNat.testBit key.toNat)
    rw [Option.some_inj, Bool.eq_iff_iff, bne_iff_ne, ne_eq, ← UInt16.toNat_inj, hand]
    cases keys.toNat.testBit key.toNat <;> simp
  · have hkey : 16 ≤ key.toNat := Nat.le_of_not_lt fun hlt => h (UInt8.lt_iff_toNat_lt.mpr hlt)
    rw [if_neg h, holds_eq_false_of_le keys hkey]

/-! ## Memory -/

namespace Memory

/-- The byte in a cell, if there is such a cell. -/
def get? (m : Memory) (cell : Nat) : Option UInt8 := m.cells[cell]?

/-- Changes the byte in a cell, if there is such a cell. -/
def set? (m : Memory) (cell : Nat) (byte : UInt8) : Option Memory :=
  if h : cell < memorySize then some ⟨m.cells.set cell byte⟩ else none

/-- Reads some bytes at an offset from an address. The offset is counted and must not wrap around. -/
def readMany? (m : Memory) (address : UInt16) (offset : Nat) : (count : Nat) → Option (List UInt8)
  | 0 => some []
  | count + 1 => do
    let byte ← m.get? ((address + offset.toUInt16).toNat % memorySize)
    let next ← fit? (offset + 1)
    let rest ← m.readMany? address next count
    some (byte :: rest)

/-- Writes bytes at an offset from an address. The offset is counted and must not wrap around. -/
def writeMany? (m : Memory) (address : UInt16) (offset : Nat) : (bytes : List UInt8) → Option Memory
  | [] => some m
  | byte :: rest => do
    let m ← m.set? ((address + offset.toUInt16).toNat % memorySize) byte
    let next ← fit? (offset + 1)
    m.writeMany? address next rest

theorem get?_eq_some (m : Memory) (address : UInt16) :
    m.get? (address.toNat % memorySize) = some (m.read address) :=
  Vector.getElem?_eq_getElem _

theorem set?_eq_some (m : Memory) (address : UInt16) (byte : UInt8) :
    m.set? (address.toNat % memorySize) byte = some (m.write address byte) :=
  dif_pos (Nat.mod_lt _ (by decide))

theorem add_offset_zero (address : UInt16) : address + (0 : Nat).toUInt16 = address :=
  UInt16.add_zero _

theorem add_offset_succ (address : UInt16) (offset : Nat) :
    address + offset.toUInt16 + 1 = address + (offset + 1).toUInt16 := by
  rw [UInt16.add_assoc]
  congr 1
  apply UInt16.toNat_inj.mp
  simp [UInt16.toNat_add]

theorem readMany?_eq_some (m : Memory) (address : UInt16) {offset count : Nat}
    (h : offset + count < 65536) :
    m.readMany? address offset count =
      some (m.readMany (address + offset.toUInt16) count) := by
  induction count generalizing offset with
  | zero => rfl
  | succ count ih =>
    have hnext : offset + 1 < 65536 := by omega
    rw [readMany?, readMany, get?_eq_some, fit?_eq_some hnext, add_offset_succ]
    simp only [Option.bind_eq_bind, Option.bind_some, ih (by omega : offset + 1 + count < 65536)]

theorem writeMany?_eq_some (m : Memory) (address : UInt16) {offset : Nat} (bytes : List UInt8)
    (h : offset + bytes.length < 65536) :
    m.writeMany? address offset bytes =
      some (m.writeMany (address + offset.toUInt16) bytes) := by
  induction bytes generalizing m offset with
  | nil => rfl
  | cons byte rest ih =>
    rw [List.length_cons] at h
    have hnext : offset + 1 < 65536 := by omega
    rw [writeMany?, writeMany, set?_eq_some, add_offset_succ]
    simp only [Option.bind_eq_bind, Option.bind_some, fit?_eq_some hnext]
    exact ih _ (by omega)

end Memory

/-! ## Registers and stack -/

namespace Registers

/-- Gives a register a new value, if there is such a register. -/
def put? (r : Registers) (x : Nat) (value : UInt8) : Option Registers :=
  if h : x < 16 then some (r.put ⟨x, h⟩ value) else none

/-- The values of some registers, from register `x` on. -/
def getMany? (r : Registers) (x : Nat) : (count : Nat) → Option (List UInt8)
  | 0 => some []
  | count + 1 => do
    let value ← r[x]?
    let rest ← r.getMany? (x + 1) count
    some (value :: rest)

/-- Gives registers new values, from register `x` on. -/
def putMany? (r : Registers) (x : Nat) : (bytes : List UInt8) → Option Registers
  | [] => some r
  | byte :: rest => do
    let r ← r.put? x byte
    r.putMany? (x + 1) rest

theorem getElem?_eq_some (r : Registers) (x : RegisterIndex) : r[x.val]? = some (r.get x) :=
  Vector.getElem?_eq_getElem _

theorem put?_eq_some (r : Registers) (x : RegisterIndex) (value : UInt8) :
    r.put? x value = some (r.put x value) := dif_pos x.isLt

theorem getMany?_eq_some (r : Registers) {x count : Nat} (h : x + count ≤ 16) :
    r.getMany? x count = some ((r.toList.drop x).take count) := by
  induction count generalizing x with
  | zero => rfl
  | succ count ih =>
    have hx : x < 16 := by omega
    have hlen : x < r.toList.length := by rwa [Vector.length_toList]
    have hvalue : r[x]? = some r.toList[x] := Vector.getElem?_eq_getElem hx
    rw [getMany?, hvalue, ih (by omega), List.drop_eq_getElem_cons hlen]
    rfl

/-- Registers are given the bytes that there are, in order, and the others stay as they are. -/
theorem putMany?_spec (r : Registers) {x : Nat} {bytes : List UInt8} (h : x + bytes.length ≤ 16) :
    ∃ r', r.putMany? x bytes = some r' ∧
      ∀ k : RegisterIndex, r'.get k = if x ≤ k then bytes[k - x]?.getD (r.get k) else r.get k := by
  induction bytes generalizing r x with
  | nil => exact ⟨r, rfl, by simp⟩
  | cons byte rest ih =>
    rw [List.length_cons] at h
    have hx : x < 16 := by omega
    obtain ⟨r', hr', hget⟩ := ih (r.put ⟨x, hx⟩ byte) (x := x + 1) (by omega)
    refine ⟨r', ?_, fun k => ?_⟩
    · rw [putMany?, put?, dif_pos hx]
      exact hr'
    · rw [hget k, get_put]
      rcases Nat.lt_trichotomy k x with hlt | heq | hgt
      · have hne : (⟨x, hx⟩ : RegisterIndex) ≠ k := Fin.ne_of_val_ne (Nat.ne_of_gt hlt)
        rw [if_neg (by omega), if_neg hne, if_neg (by omega)]
      · have hself : (⟨x, hx⟩ : RegisterIndex) = k := Fin.ext heq.symm
        rw [if_neg (by omega), if_pos hself, if_pos (by omega), heq, Nat.sub_self]
        rfl
      · have hne : (⟨x, hx⟩ : RegisterIndex) ≠ k := Fin.ne_of_val_ne (Nat.ne_of_lt hgt)
        have hsub : k.val - x = k - (x + 1) + 1 := by omega
        rw [if_pos (by omega), if_neg hne, if_pos (by omega), hsub, List.getElem?_cons_succ]

theorem putMany?_eq_some (r : Registers) {bytes : List UInt8} (h : bytes.length ≤ 16) :
    r.putMany? 0 bytes = some (r.overwrite bytes) := by
  obtain ⟨r', hr', hget⟩ := r.putMany?_spec (x := 0) (by omega : 0 + bytes.length ≤ 16)
  rw [hr', Option.some_inj]
  apply Vector.ext
  intro k hk
  have h := hget ⟨k, hk⟩
  rw [if_pos (Nat.zero_le _), Nat.sub_zero, ← get_overwrite] at h
  exact h

end Registers

/-- The newest return address, if the stack has the slot that the pointer names. -/
def CallStack.top? (s : CallStack) : Option UInt16 := s.slots[s.pointer.toNat % stackSize]?

/-- Puts a return address into the next slot, if the stack has it. -/
def CallStack.push? (s : CallStack) (address : UInt16) : Option CallStack :=
  let slot := (s.pointer + 1).toNat % stackSize
  if h : slot < stackSize then some ⟨s.slots.set slot address, s.pointer + 1⟩ else none

theorem CallStack.top?_eq_some (s : CallStack) : s.top? = some s.top :=
  Vector.getElem?_eq_getElem _

theorem CallStack.push?_eq_some (s : CallStack) (address : UInt16) :
    s.push? address = some (s.push address) :=
  dif_pos (Nat.mod_lt _ (by decide))

namespace Machine

/-! ## Operations -/

/-- The value of a register, if there is such a register. -/
def reg? (m : Machine) (x : Nat) : Option UInt8 := m.registers[x]?

/-- Gives a register a new value, if there is such a register. -/
def setReg? (m : Machine) (x : Nat) (value : UInt8) : Option Machine := do
  let registers ← m.registers.put? x value
  some { m with registers := registers }

/-- Sets the flag register to one or zero. -/
def setFlag? (m : Machine) (raised : Bool) : Option Machine :=
  m.setReg? 0xF (if raised then 1 else 0)

/-- Loads a value into a register and goes on. -/
def load? (m : Machine) (x : Nat) (value : UInt8) : Option Machine := do
  let m ← m.setReg? x value
  some m.next

/-- Goes on, leaving out the next instruction if the condition holds. -/
def skipIf? (m : Machine) (condition : Bool) : Option Machine := do
  let distance ← if condition then fit? (2 * 2) else some 2
  some { m with pc := m.pc + distance.toUInt16 }

/-- Combines the two register operands into the first one and then sets the flag. -/
def combine? (m : Machine) (w : Word) (value : UInt8 → UInt8 → Option UInt8)
    (raised : UInt8 → UInt8 → Bool) : Option Machine := do
  let x ← m.reg? w.xNumber
  let y ← m.reg? w.yNumber
  let m ← m.setReg? w.xNumber (← value x y)
  let m ← m.setFlag? (raised x y)
  some m.next

/-- Draws the sprite at the index register. -/
def drawSprite? (m : Machine) (w : Word) : Option Machine := do
  let sprite ← m.memory.readMany? m.index 0 w.height
  let x ← m.reg? w.xNumber
  let y ← m.reg? w.yNumber
  let (collision, bitmap) ← m.display.bitmap.drawChecked? sprite x y
  let m ← { m with display := ⟨bitmap, true⟩ }.setFlag? collision
  some m.next

/-- Loads the number of the lowest released key, or stays at the instruction. -/
def awaitKey? (m : Machine) (w : Word) : Option Machine :=
  match (KeyMask.released m.lastKeys m.keys).lowest? with
  | some key => m.load? w.xNumber key.val.toUInt8
  | none => some m

/-- Stores the first registers in memory. -/
def store? (m : Machine) (w : Word) : Option Machine := do
  let bytes ← m.registers.getMany? 0 (w.xNumber + 1)
  let memory ← m.memory.writeMany? m.index 0 bytes
  let count ← fit? (w.xNumber + 1)
  some { m with memory := memory, index := m.index + count.toUInt16 }.next

/-- Loads the first registers from memory. -/
def restore? (m : Machine) (w : Word) : Option Machine := do
  let bytes ← m.memory.readMany? m.index 0 (w.xNumber + 1)
  let registers ← m.registers.putMany? 0 bytes
  let count ← fit? (w.xNumber + 1)
  some { m with registers := registers, index := m.index + count.toUInt16 }.next

/-- Executes one operation, if nothing is out of range. Only a random source can fail. -/
def executeChecked? (m : Machine) (w : Word) : Operation → Option (Except Fault Machine)
  | .clear => some (.ok { m with display := m.display.clear }.next)
  | .ret => do
    let address ← m.stack.top?
    some (.ok { m with pc := address, stack := m.stack.drop })
  | .sys => some (.ok m.next)
  | .jump => some (.ok { m with pc := w.addr })
  | .call => do
    let stack ← m.stack.push? (m.pc + Word.width)
    some (.ok { m with pc := w.addr, stack := stack })
  | .skipEqByte => do
    let x ← m.reg? w.xNumber
    (m.skipIf? (x == w.byte)).map .ok
  | .skipNeByte => do
    let x ← m.reg? w.xNumber
    (m.skipIf? (x != w.byte)).map .ok
  | .skipEq => do
    let x ← m.reg? w.xNumber
    let y ← m.reg? w.yNumber
    (m.skipIf? (x == y)).map .ok
  | .skipNe => do
    let x ← m.reg? w.xNumber
    let y ← m.reg? w.yNumber
    (m.skipIf? (x != y)).map .ok
  | .loadByte => (m.load? w.xNumber w.byte).map .ok
  | .addByte => do
    let x ← m.reg? w.xNumber
    (m.load? w.xNumber (x + w.byte)).map .ok
  | .copy => do
    let y ← m.reg? w.yNumber
    (m.load? w.xNumber y).map .ok
  | .or => (m.combine? w (fun x y => some (x ||| y)) fun _ _ => false).map .ok
  | .and => (m.combine? w (fun x y => some (x &&& y)) fun _ _ => false).map .ok
  | .xor => (m.combine? w (fun x y => some (x ^^^ y)) fun _ _ => false).map .ok
  | .add =>
    (m.combine? w (fun x y => some (x + y)) fun x y => x.toNat + y.toNat > 255).map .ok
  | .sub => (m.combine? w (fun x y => some (x - y)) fun x y => x > y).map .ok
  | .subFrom => (m.combine? w (fun x y => some (y - x)) fun x y => y > x).map .ok
  | .shiftRight =>
    (m.combine? w (fun _ y => shiftRight? y 1) fun _ y => y &&& 0x01 == 0x01).map .ok
  | .shiftLeft =>
    (m.combine? w (fun _ y => shiftLeft? y 1) fun _ y => y &&& 0x80 == 0x80).map .ok
  | .loadIndex => some (.ok { m with index := w.addr }.next)
  | .jumpOffset => do
    let offset ← m.reg? 0
    some (.ok { m with pc := w.addr + offset.toUInt16 })
  | .random =>
    match m.random.drawByte? with
    | some (byte, random) =>
      ({ m with random := random }.load? w.xNumber (byte &&& w.byte)).map .ok
    | none => some (.error .randomFailed)
  | .draw => (m.drawSprite? w).map .ok
  | .skipPressed => do
    let x ← m.reg? w.xNumber
    (m.skipIf? (← m.keys.holds? x)).map .ok
  | .skipReleased => do
    let x ← m.reg? w.xNumber
    (m.skipIf? (!(← m.keys.holds? x))).map .ok
  | .readDelay => (m.load? w.xNumber m.timers.delay).map .ok
  | .awaitKey => (m.awaitKey? w).map .ok
  | .setDelay => do
    let x ← m.reg? w.xNumber
    some (.ok { m with timers := { m.timers with delay := x } }.next)
  | .setSound => do
    let x ← m.reg? w.xNumber
    some (.ok { m with timers := { m.timers with sound := x } }.next)
  | .addIndex => do
    let x ← m.reg? w.xNumber
    some (.ok { m with index := m.index + x.toUInt16 }.next)
  | .glyph => do
    let x ← m.reg? w.xNumber
    let address ← fit? (x.toNat * 5)
    some (.ok { m with index := address.toUInt16 }.next)
  | .decimal => do
    let x ← m.reg? w.xNumber
    let memory ← m.memory.writeMany? m.index 0 (decimalDigits x)
    some (.ok { m with memory := memory }.next)
  | .store => (m.store? w).map .ok
  | .restore => (m.restore? w).map .ok

/-- Executes the instruction at the program counter, if nothing is out of range. -/
def cycleChecked? (m : Machine) : Option (Except Fault Executed × Machine) := do
  let high ← m.memory.get? (m.pc.toNat % memorySize)
  let low ← m.memory.get? ((m.pc + 1).toNat % memorySize)
  let word := Word.ofBytes high low
  match word.operation? with
  | none => some (.error (.unrecognised word), m)
  | some operation =>
    match ← m.executeChecked? word operation with
    | .error fault => some (.error fault, m)
    | .ok after => some (.ok ⟨m.pc, word⟩, { after with lastKeys := m.keys })

theorem reg?_eq_some (m : Machine) (x : RegisterIndex) : m.reg? x = some (m.reg x) :=
  m.registers.getElem?_eq_some x

theorem setReg?_eq_some (m : Machine) (x : RegisterIndex) (value : UInt8) :
    m.setReg? x value = some (m.setReg x value) := by
  rw [setReg?, Registers.put?_eq_some]
  rfl

theorem setFlag?_eq_some (m : Machine) (raised : Bool) :
    m.setFlag? raised = some { m with registers := m.registers.setFlag raised } :=
  m.setReg?_eq_some Registers.flag _

theorem skipIf?_eq_some (m : Machine) (condition : Bool) :
    m.skipIf? condition = some (m.skipIf condition) := by
  cases condition <;> rfl

theorem combine?_eq_some (m : Machine) (w : Word) {value : UInt8 → UInt8 → Option UInt8}
    {result : UInt8} (h : value (m.reg w.x) (m.reg w.y) = some result)
    (raised : UInt8 → UInt8 → Bool) :
    m.combine? w value raised =
      some (m.setRegFlag w.x result (raised (m.reg w.x) (m.reg w.y))).next := by
  simp only [combine?, Word.xNumber_eq, Word.yNumber_eq, reg?_eq_some, Option.bind_eq_bind,
    Option.bind_some, h, setReg?_eq_some, setFlag?_eq_some]
  rfl

theorem load?_eq_some (m : Machine) (x : RegisterIndex) (value : UInt8) :
    m.load? x value = some (m.setReg x value).next := by
  rw [load?, setReg?_eq_some]
  rfl

theorem drawSprite?_eq_some (m : Machine) (w : Word) :
    m.drawSprite? w = some (m.drawSprite w.x w.y w.nibble).next := by
  have hheight : 0 + w.nibble.val < 65536 := by omega
  simp only [drawSprite?, Word.xNumber_eq, Word.yNumber_eq, Word.height_eq, reg?_eq_some,
    Memory.readMany?_eq_some _ _ hheight, Memory.add_offset_zero, Bitmap.drawChecked?_eq_some,
    Option.bind_eq_bind, Option.bind_some, setFlag?_eq_some]
  rfl

theorem awaitKey?_eq_some (m : Machine) (w : Word) : m.awaitKey? w = some (m.awaitKey w.x) := by
  rw [awaitKey?, awaitKey, Word.xNumber_eq]
  cases (KeyMask.released m.lastKeys m.keys).lowest? with
  | none => rfl
  | some key => exact m.load?_eq_some w.x _

theorem store?_eq_some (m : Machine) (w : Word) :
    (m.store? w).map .ok = some (m.execute w .store) := by
  have hcount : w.x.val + 1 < 65536 := by omega
  have hbytes : m.registers.getMany? 0 (w.x + 1) = some (m.registers.upTo w.x) :=
    m.registers.getMany?_eq_some (by omega)
  have hlen : 0 + (m.registers.upTo w.x).length < 65536 := by
    rw [Registers.upTo, List.length_take, Vector.length_toList]
    omega
  simp only [store?, Word.xNumber_eq, hbytes, Memory.writeMany?_eq_some _ _ _ hlen,
    Memory.add_offset_zero, fit?_eq_some hcount, Option.bind_eq_bind, Option.bind_some,
    Option.map_some]
  rfl

theorem restore?_eq_some (m : Machine) (w : Word) :
    (m.restore? w).map .ok = some (m.execute w .restore) := by
  have hcount : w.x.val + 1 < 65536 := by omega
  have hread : 0 + (w.x.val + 1) < 65536 := by omega
  have hlen : (m.memory.readMany m.index (w.x + 1)).length ≤ 16 := by
    rw [Memory.length_readMany]
    omega
  simp only [restore?, Word.xNumber_eq, Memory.readMany?_eq_some _ _ hread, Memory.add_offset_zero,
    Registers.putMany?_eq_some _ hlen, fit?_eq_some hcount, Option.bind_eq_bind, Option.bind_some,
    Option.map_some, execute]

/-- No operation goes out of range. -/
theorem executeChecked?_eq_some (m : Machine) (w : Word) (operation : Operation) :
    m.executeChecked? w operation = some (m.execute w operation) := by
  cases operation with
  | clear | sys | jump | loadIndex => rfl
  | ret =>
    rw [executeChecked?, CallStack.top?_eq_some]
    rfl
  | call =>
    rw [executeChecked?, CallStack.push?_eq_some]
    rfl
  | skipEqByte | skipNeByte | skipEq | skipNe =>
    simp only [executeChecked?, Word.xNumber_eq, Word.yNumber_eq, reg?_eq_some, skipIf?_eq_some,
      Option.bind_eq_bind, Option.bind_some, Option.map_some, execute]
  | loadByte | addByte | copy | readDelay =>
    simp only [executeChecked?, Word.xNumber_eq, Word.yNumber_eq, reg?_eq_some, load?_eq_some,
      Option.bind_eq_bind, Option.bind_some, Option.map_some, execute]
  | or | and | xor | add | sub | subFrom | shiftRight | shiftLeft =>
    simp only [executeChecked?]
    rw [combine?_eq_some m w rfl]
    rfl
  | jumpOffset =>
    have hfirst : m.reg? 0 = some (m.reg Registers.first) := m.reg?_eq_some Registers.first
    rw [executeChecked?, hfirst]
    rfl
  | random =>
    simp only [executeChecked?, execute, Word.xNumber_eq, load?_eq_some]
    cases m.random.drawByte? with
    | none => rfl
    | some drawn => rfl
  | draw =>
    simp only [executeChecked?, drawSprite?_eq_some, Option.map_some, execute]
  | skipPressed | skipReleased =>
    simp only [executeChecked?, Word.xNumber_eq, reg?_eq_some, skipIf?_eq_some,
      KeyMask.holds?_eq_some, Option.bind_eq_bind, Option.bind_some, Option.map_some, execute]
  | awaitKey =>
    simp only [executeChecked?, awaitKey?_eq_some, Option.map_some, execute]
  | setDelay | setSound | addIndex =>
    simp only [executeChecked?, Word.xNumber_eq, reg?_eq_some, Option.bind_eq_bind,
      Option.bind_some, execute]
  | glyph =>
    have hlt : (m.reg w.x).toNat * 5 < 65536 := by
      have := (m.reg w.x).toNat_lt
      omega
    have hmul : ((m.reg w.x).toNat * 5).toUInt16 = (m.reg w.x).toUInt16 * glyphLength := by
      apply UInt16.toNat_inj.mp
      rw [UInt16.toNat_mul, UInt8.toNat_toUInt16]
      rfl
    simp only [executeChecked?, Word.xNumber_eq, reg?_eq_some, fit?_eq_some hlt, hmul,
      Option.bind_eq_bind, Option.bind_some, execute]
  | decimal =>
    have hlen : 0 + (decimalDigits (m.reg w.x)).length < 65536 := by
      show 0 + 3 < 65536
      decide
    simp only [executeChecked?, Word.xNumber_eq, reg?_eq_some, Memory.writeMany?_eq_some _ _ _ hlen,
      Memory.add_offset_zero, Option.bind_eq_bind, Option.bind_some, execute]
  | store => exact m.store?_eq_some w
  | restore => exact m.restore?_eq_some w

/-- A cycle with every index checked always has a result, and it is that of the cycle. -/
theorem cycleChecked?_eq_some (m : Machine) : m.cycleChecked? = some m.cycle := by
  have hword : Word.ofBytes (m.memory.read m.pc) (m.memory.read (m.pc + 1)) = m.fetch := rfl
  simp only [cycleChecked?, Memory.get?_eq_some, Option.bind_eq_bind, Option.bind_some, hword,
    executeChecked?_eq_some, cycle]
  rcases m.fetch.operation? with _ | operation
  · rfl
  · rcases hex : m.execute m.fetch operation with fault | after
    · simp only [hex]
    · simp only [hex]

end Machine

end Chip8
