import Chip8.Proofs.Stimulus
import Chip8.Rom

/-!
# Addresses count modulo the size of memory

Program counter, index register and return addresses are 16-bit words of which every access only
looks at the value modulo 4096; of the stack pointer only the value modulo 32 counts. Two machines
that agree as far as accesses look therefore do the same in every run. The relation `Machine.Alike`
is a bisimulation: one operation takes alike machines to alike machines, hence so does one cycle and
so does a run. That addition wraps around at 65536 does not show, since 4096 divides 65536.
-/

namespace Chip8

/-! ## Addresses -/

/-- Two addresses name the same cell of memory. -/
def SameCell (a c : UInt16) : Prop := a.toNat % memorySize = c.toNat % memorySize

instance (a c : UInt16) : Decidable (SameCell a c) := inferInstanceAs (Decidable (_ = _))

namespace SameCell

variable {a c : UInt16}

theorem refl (a : UInt16) : SameCell a a := rfl

theorem cell (h : SameCell a c) : Memory.cell a = Memory.cell c := Fin.ext h

/-- Moving on by the same distance keeps the cells the same, also past the end of the words. -/
theorem add (h : SameCell a c) (distance : UInt16) : SameCell (a + distance) (c + distance) := by
  unfold SameCell at h ⊢
  rw [UInt16.toNat_add, UInt16.toNat_add]
  simp only [memorySize] at h ⊢
  omega

/-- An address names the same cell as its low twelve bits. -/
theorem reduce (a : UInt16) : SameCell a (a % 4096) := by
  unfold SameCell
  rw [UInt16.toNat_mod]
  exact (Nat.mod_mod _ _).symm

end SameCell

namespace Memory

variable {a c : UInt16}

theorem read_sameCell (m : Memory) (h : SameCell a c) : m.read a = m.read c :=
  m.read_congr h.cell

theorem write_sameCell (m : Memory) (h : SameCell a c) (byte : UInt8) :
    m.write a byte = m.write c byte := by
  simp only [write, h.cell]

theorem readMany_sameCell (m : Memory) (h : SameCell a c) (count : Nat) :
    m.readMany a count = m.readMany c count := by
  induction count generalizing a c with
  | zero => rfl
  | succ count ih => rw [readMany, readMany, m.read_sameCell h, ih (h.add 1)]

theorem writeMany_sameCell (m : Memory) (h : SameCell a c) (bytes : List UInt8) :
    m.writeMany a bytes = m.writeMany c bytes := by
  induction bytes generalizing m a c with
  | nil => rfl
  | cons byte bytes ih => rw [writeMany, writeMany, m.write_sameCell h, ih _ (h.add 1)]

end Memory

/-! ## Call stacks -/

/-- Two call stacks with the same slots, as far as accesses look. -/
structure CallStack.Alike (s t : CallStack) : Prop where
  /-- The return addresses agree modulo the size of memory. -/
  slots : ∀ k : Fin stackSize, SameCell (s.slots.get k) (t.slots.get k)
  /-- The pointers agree modulo the size of the stack. -/
  pointer : s.pointer.toNat % stackSize = t.pointer.toNat % stackSize

namespace CallStack.Alike

variable {s t : CallStack}

theorem slot (h : s.Alike t) : CallStack.slot s.pointer = CallStack.slot t.pointer :=
  Fin.ext h.pointer

theorem top (h : s.Alike t) : SameCell s.top t.top := by
  have hs : s.top = s.slots.get (CallStack.slot t.pointer) := by simp only [CallStack.top, h.slot]
  rw [hs]
  exact h.slots _

theorem drop (h : s.Alike t) : s.drop.Alike t.drop where
  slots := h.slots
  pointer := by
    have hp := h.pointer
    simp only [CallStack.drop, UInt8.toNat_sub, stackSize] at hp ⊢
    omega

theorem push (h : s.Alike t) {a c : UInt16} (hac : SameCell a c) : (s.push a).Alike (t.push c) := by
  have hp : (s.pointer + 1).toNat % stackSize = (t.pointer + 1).toNat % stackSize := by
    have hp := h.pointer
    simp only [UInt8.toNat_add, stackSize] at hp ⊢
    omega
  have hslot : CallStack.slot (s.pointer + 1) = CallStack.slot (t.pointer + 1) := Fin.ext hp
  refine ⟨fun k => ?_, hp⟩
  rw [get_slots_push, get_slots_push, hslot]
  split
  · exact hac
  · exact h.slots k

end CallStack.Alike

/-! ## Machines -/

/-- Two machines that differ at most in the parts of addresses and stack pointers at which no access
looks. -/
structure Machine.Alike (m n : Machine) : Prop where
  registers : m.registers = n.registers
  memory : m.memory = n.memory
  display : m.display = n.display
  timers : m.timers = n.timers
  keys : m.keys = n.keys
  lastKeys : m.lastKeys = n.lastKeys
  random : m.random = n.random
  pc : SameCell m.pc n.pc
  index : SameCell m.index n.index
  stack : m.stack.Alike n.stack

/-- Two outcomes of an operation: the same fault, or alike machines. -/
inductive AlikeOutcomes : Except Fault Machine → Except Fault Machine → Prop
  | ok {m n : Machine} (h : m.Alike n) : AlikeOutcomes (.ok m) (.ok n)
  | error (fault : Fault) : AlikeOutcomes (.error fault) (.error fault)

namespace Machine.Alike

variable {m n : Machine}

theorem reg (h : m.Alike n) (x : RegisterIndex) : m.reg x = n.reg x := by
  rw [Machine.reg, Machine.reg, h.registers]

theorem fetch (h : m.Alike n) : m.fetch = n.fetch := by
  rw [Machine.fetch, Machine.fetch, h.memory, n.memory.read_sameCell h.pc,
    n.memory.read_sameCell (h.pc.add 1)]

theorem next (h : m.Alike n) : m.next.Alike n.next :=
  { h with pc := h.pc.add _ }

theorem skipIf (h : m.Alike n) (condition : Bool) :
    (m.skipIf condition).Alike (n.skipIf condition) :=
  { h with pc := h.pc.add _ }

theorem setReg (h : m.Alike n) (x : RegisterIndex) (value : UInt8) :
    (m.setReg x value).Alike (n.setReg x value) :=
  { h with registers := by rw [Machine.setReg, Machine.setReg, h.registers] }

theorem setRegFlag (h : m.Alike n) (x : RegisterIndex) (value : UInt8) (raised : Bool) :
    (m.setRegFlag x value raised).Alike (n.setRegFlag x value raised) :=
  { h with registers := by rw [Machine.setRegFlag, Machine.setRegFlag, h.registers] }

theorem drawSprite (h : m.Alike n) (x y : RegisterIndex) (height : Nat) :
    (m.drawSprite x y height).Alike (n.drawSprite x y height) := by
  have hsprite : m.memory.readMany m.index height = n.memory.readMany n.index height := by
    rw [h.memory, n.memory.readMany_sameCell h.index]
  exact
    { h with
      display := by
        simp only [Machine.drawSprite, hsprite, h.display, h.reg]
      registers := by
        simp only [Machine.drawSprite, hsprite, h.display, h.reg, h.registers] }

theorem awaitKey (h : m.Alike n) (x : RegisterIndex) : (m.awaitKey x).Alike (n.awaitKey x) := by
  rw [Machine.awaitKey, Machine.awaitKey, h.keys, h.lastKeys]
  split
  · exact (h.setReg x _).next
  · exact h

/-- An operation takes alike machines to alike machines. -/
theorem execute (h : m.Alike n) (w : Word) (operation : Operation) :
    AlikeOutcomes (m.execute w operation) (n.execute w operation) := by
  cases operation with
  | clear =>
    simp only [Machine.execute, h.display]
    exact .ok (next { h with display := rfl })
  | ret => exact .ok { h with pc := h.stack.top, stack := h.stack.drop }
  | sys => exact .ok h.next
  | jump => exact .ok { h with pc := .refl _ }
  | call => exact .ok { h with pc := .refl _, stack := h.stack.push (h.pc.add _) }
  | skipEqByte | skipNeByte | skipEq | skipNe =>
    simp only [Machine.execute, h.reg]
    exact .ok (h.skipIf _)
  | loadByte => exact .ok (h.setReg _ _).next
  | addByte | copy =>
    simp only [Machine.execute, h.reg]
    exact .ok (h.setReg _ _).next
  | or | and | xor | add | sub | subFrom | shiftRight | shiftLeft =>
    simp only [Machine.execute, h.reg]
    exact .ok (h.setRegFlag _ _ _).next
  | loadIndex => exact .ok (next { h with index := .refl _ })
  | jumpOffset =>
    simp only [Machine.execute, h.reg]
    exact .ok { h with pc := .refl _ }
  | random =>
    simp only [Machine.execute, h.random]
    split
    · next byte random _ =>
      have h' : Machine.Alike { m with random := random } { n with random := random } :=
        { h with random := rfl }
      exact .ok (h'.setReg _ _).next
    · exact .error _
  | draw => exact .ok (h.drawSprite _ _ _).next
  | skipPressed | skipReleased =>
    simp only [Machine.execute, h.reg, h.keys]
    exact .ok (h.skipIf _)
  | readDelay =>
    simp only [Machine.execute, h.timers]
    exact .ok (h.setReg _ _).next
  | awaitKey => exact .ok (h.awaitKey _)
  | setDelay | setSound =>
    simp only [Machine.execute, h.reg, h.timers]
    exact .ok (next { h with timers := rfl })
  | addIndex =>
    simp only [Machine.execute, h.reg]
    exact .ok (next { h with index := h.index.add _ })
  | glyph =>
    simp only [Machine.execute, h.reg]
    exact .ok (next { h with index := .refl _ })
  | decimal =>
    simp only [Machine.execute, h.reg, h.memory, n.memory.writeMany_sameCell h.index]
    exact .ok (next { h with memory := rfl })
  | store =>
    simp only [Machine.execute, h.registers, h.memory, n.memory.writeMany_sameCell h.index]
    exact .ok (next { h with registers := rfl, memory := rfl, index := h.index.add _ })
  | restore =>
    simp only [Machine.execute, h.registers, h.memory, n.memory.readMany_sameCell h.index]
    exact .ok (next { h with registers := rfl, memory := rfl, index := h.index.add _ })

/-- Alike machines fetch the same word, fail alike on it, and are left alike. -/
theorem cycle (h : m.Alike n) :
    m.cycle.1.map Executed.word = n.cycle.1.map Executed.word ∧ m.cycle.2.Alike n.cycle.2 := by
  rcases hop : n.fetch.operation? with _ | operation
  · simp only [Machine.cycle, h.fetch, hop]
    exact ⟨trivial, h⟩
  · have hex := h.execute n.fetch operation
    simp only [Machine.cycle, h.fetch, hop]
    generalize m.execute n.fetch operation = outcome, n.execute n.fetch operation = outcome' at hex ⊢
    cases hex with
    | ok h' => exact ⟨rfl, { h' with lastKeys := h.keys }⟩
    | error fault => exact ⟨rfl, h⟩

/-- Alike machines stay alike, and their cycles go alike, in every run. -/
theorem run (h : m.Alike n) (stimuli : List Stimulus) :
    (m.results stimuli).map (Except.map Executed.word) =
        (n.results stimuli).map (Except.map Executed.word) ∧
      (m.after stimuli).Alike (n.after stimuli) := by
  induction stimuli generalizing m n with
  | nil => exact ⟨rfl, h⟩
  | cons s stimuli ih =>
    cases s with
    | cycle =>
      obtain ⟨hword, hafter⟩ := h.cycle
      obtain ⟨hres, hend⟩ := ih hafter
      exact ⟨List.cons_eq_cons.mpr ⟨hword, hres⟩, hend⟩
    | tick => exact ih { h with timers := congrArg Timers.tick h.timers }
    | keys mask => exact ih { h with keys := rfl }

end Machine.Alike

/-! ## Reduced machines -/

/-- The call stack with all return addresses and the pointer cut to what accesses look at. -/
def CallStack.reduced (s : CallStack) : CallStack :=
  ⟨s.slots.map (· % 4096), s.pointer % 32⟩

/-- The machine with all addresses and the stack pointer cut to what accesses look at. -/
def Machine.reduced (m : Machine) : Machine :=
  { m with pc := m.pc % 4096, index := m.index % 4096, stack := m.stack.reduced }

theorem CallStack.alike_reduced (s : CallStack) : s.Alike s.reduced where
  slots k := by
    show SameCell s.slots[k] (s.slots.map (· % 4096))[k]
    rw [Fin.getElem_fin, Fin.getElem_fin, Vector.getElem_map]
    exact .reduce _
  pointer := by
    rw [CallStack.reduced, UInt8.toNat_mod]
    exact (Nat.mod_mod _ _).symm

theorem Machine.alike_reduced (m : Machine) : m.Alike m.reduced where
  registers := rfl
  memory := rfl
  display := rfl
  timers := rfl
  keys := rfl
  lastKeys := rfl
  random := rfl
  pc := .reduce _
  index := .reduce _
  stack := m.stack.alike_reduced

/-- Addresses count modulo 4096 and the stack pointer modulo 32: alike machines fetch the same words
and fail on the same words in every run, and stay alike. So it does not show if at any moment all
addresses are cut to twelve bits and the stack pointer to five. -/
theorem runs_count_addresses_modulo :
    (∀ m n : Machine, m.Alike n → ∀ stimuli : List Stimulus,
      (m.results stimuli).map (Except.map Executed.word) =
          (n.results stimuli).map (Except.map Executed.word) ∧
        (m.after stimuli).Alike (n.after stimuli)) ∧
    ∀ m : Machine, m.Alike m.reduced :=
  ⟨fun _ _ h stimuli => h.run stimuli, Machine.alike_reduced⟩

/-- A machine whose program counter and index register stand at the end of memory. -/
def Machine.atEnd (address : UInt16) (pointer : UInt8) : Machine :=
  { Machine.ofProgram [] .broken with
    pc := address, index := address, stack := ⟨.replicate stackSize address, pointer⟩ }

/-- Where one machine wraps around in the middle of an instruction the other one does not. -/
theorem runs_count_addresses_modulo_at_wrap :
    (Machine.atEnd 0x0FFF 31).Alike (Machine.atEnd 0xFFFF 255) ∧
    ((Machine.atEnd 0x0FFF 31).results [.cycle, .tick, .keys 1, .cycle]).map
        (Except.map Executed.word) =
      ((Machine.atEnd 0xFFFF 255).results [.cycle, .tick, .keys 1, .cycle]).map
        (Except.map Executed.word) := by
  have hstack : (Machine.atEnd 0x0FFF 31).stack.Alike (Machine.atEnd 0xFFFF 255).stack :=
    ⟨by decide, by decide⟩
  have h : (Machine.atEnd 0x0FFF 31).Alike (Machine.atEnd 0xFFFF 255) :=
    ⟨rfl, rfl, rfl, rfl, rfl, rfl, rfl, by decide, by decide, hstack⟩
  exact ⟨h, (runs_count_addresses_modulo.1 _ _ h _).1⟩

end Chip8
