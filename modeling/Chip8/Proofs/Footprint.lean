import Chip8.Proofs.InstructionSet
import Chip8.Proofs.KeyWait
import Chip8.Proofs.Memory
import Chip8.Proofs.Painting
import Chip8.Proofs.Timers
import Chip8.Rom

/-!
# What an instruction leaves alone

Each operation has a footprint: the registers it may write, whether it moves the index register, how
many bytes of memory it writes, and so on. What lies outside of the footprint is as it was before. The
digits of a word tell the footprint of its operation, so that in the end nothing but the word at the
program counter and the machine before the cycle is needed to know what a cycle cannot change.
-/

namespace Chip8

/-! ## Operations -/

namespace Operation

/-- Registers that an operation may write. -/
def Writes (w : Word) (r : RegisterIndex) : Operation → Prop
  | .loadByte | .addByte | .copy | .random | .readDelay | .awaitKey => r = w.x
  | .or | .and | .xor | .add | .sub | .subFrom | .shiftRight | .shiftLeft =>
    r = w.x ∨ r = Registers.flag
  | .draw => r = Registers.flag
  | .restore => r ≤ w.x
  | _ => False

/-- Operations that may write the index register. -/
def MovesIndex : Operation → Prop
  | .loadIndex | .addIndex | .glyph | .store | .restore => True
  | _ => False

/-- How many bytes an operation writes to memory. -/
def bytesWritten (w : Word) : Operation → Nat
  | .decimal => 3
  | .store => w.x + 1
  | _ => 0

end Operation

namespace Machine

variable {m after : Machine} {w : Word} {operation : Operation} {r : RegisterIndex}

theorem reg_setReg_of_ne (m : Machine) {x : RegisterIndex} (value : UInt8) (h : r ≠ x) :
    (m.setReg x value).reg r = m.reg r := by
  show (m.registers.put x value).get r = m.registers.get r
  rw [Registers.get_put, if_neg (Ne.symm h)]

theorem reg_setRegFlag_of_ne (m : Machine) {x : RegisterIndex} (value : UInt8) (raised : Bool)
    (hx : r ≠ x) (hflag : r ≠ Registers.flag) : (m.setRegFlag x value raised).reg r = m.reg r := by
  show ((m.registers.put x value).setFlag raised).get r = m.registers.get r
  rw [Registers.setFlag, Registers.get_put, if_neg (Ne.symm hflag), Registers.get_put,
    if_neg (Ne.symm hx)]

theorem reg_drawSprite_of_ne (m : Machine) (x y : RegisterIndex) (height : Nat)
    (h : r ≠ Registers.flag) : (m.drawSprite x y height).reg r = m.reg r := by
  show (m.registers.setFlag _).get r = m.registers.get r
  rw [Registers.setFlag, Registers.get_put, if_neg (Ne.symm h)]

theorem reg_of_execute (h : m.execute w operation = .ok after) (hr : ¬operation.Writes w r) :
    after.reg r = m.reg r := by
  cases operation with
  | loadByte | addByte | copy | readDelay =>
    obtain rfl := Except.ok.inj h
    exact m.reg_setReg_of_ne _ hr
  | or | and | xor | add | sub | subFrom | shiftRight | shiftLeft =>
    obtain rfl := Except.ok.inj h
    obtain ⟨hx, hflag⟩ := not_or.mp hr
    exact m.reg_setRegFlag_of_ne _ _ hx hflag
  | random =>
    obtain ⟨byte, random, -, rfl⟩ := execute_random_iff.mp h
    exact reg_setReg_of_ne _ _ hr
  | draw =>
    obtain rfl := Except.ok.inj h
    exact m.reg_drawSprite_of_ne _ _ _ hr
  | awaitKey =>
    obtain rfl := Except.ok.inj h
    rw [Machine.awaitKey]
    split
    · exact m.reg_setReg_of_ne _ hr
    · rfl
  | restore =>
    simp only [execute] at h
    have hlength : (m.memory.readMany m.index (w.x + 1)).length ≤ r := by
      rw [Memory.length_readMany]
      exact Nat.lt_of_not_le hr
    have hreg := m.registers.get_overwrite (m.memory.readMany m.index (w.x + 1)) r
    rw [List.getElem?_eq_none hlength, Option.getD_none] at hreg
    generalize m.registers.overwrite _ = registers at h hreg
    obtain rfl := Except.ok.inj h
    exact hreg
  | _ =>
    obtain rfl := Except.ok.inj h
    rfl

theorem index_of_execute (h : m.execute w operation = .ok after) (hop : ¬operation.MovesIndex) :
    after.index = m.index := by
  cases operation with
  | loadIndex | addIndex | glyph | store | restore => exact absurd trivial hop
  | random =>
    obtain ⟨byte, random, -, rfl⟩ := execute_random_iff.mp h
    rfl
  | awaitKey =>
    obtain rfl := Except.ok.inj h
    rw [Machine.awaitKey]
    split <;> rfl
  | _ =>
    obtain rfl := Except.ok.inj h
    rfl

theorem memory_of_execute (h : m.execute w operation = .ok after) {c : Fin memorySize}
    (hc : ∀ k < operation.bytesWritten w, c.val ≠ (m.index.toNat + k) % memorySize) :
    after.memory.cells[c] = m.memory.cells[c] := by
  cases operation with
  | decimal =>
    obtain rfl := Except.ok.inj h
    exact m.memory.get_writeMany_of_ne m.index _ hc
  | store =>
    obtain rfl := Except.ok.inj h
    refine m.memory.get_writeMany_of_ne m.index _ fun k hk => hc k ?_
    refine Nat.lt_of_lt_of_le hk ?_
    exact List.length_take_le _ _
  | random =>
    obtain ⟨byte, random, -, rfl⟩ := execute_random_iff.mp h
    rfl
  | restore =>
    simp only [execute] at h
    generalize m.registers.overwrite _ = registers at h
    obtain rfl := Except.ok.inj h
    rfl
  | awaitKey =>
    obtain rfl := Except.ok.inj h
    rw [Machine.awaitKey]
    split <;> rfl
  | _ =>
    obtain rfl := Except.ok.inj h
    rfl

theorem pc_skipIf (m : Machine) (condition : Bool) :
    (m.skipIf condition).pc = m.pc + 2 ∨ (m.skipIf condition).pc = m.pc + 4 := by
  cases condition
  · exact Or.inl rfl
  · exact Or.inr rfl

theorem pc_of_execute (h : m.execute w operation = .ok after)
    (hop : operation ∉ [.ret, .jump, .call, .jumpOffset]) :
    (after.pc = m.pc + 2 ∨ after.pc = m.pc + 4) ∨
      operation = .awaitKey ∧ KeyMask.released m.lastKeys m.keys = 0 ∧ after.pc = m.pc := by
  cases operation with
  | ret | jump | call | jumpOffset => exact absurd (by decide) hop
  | skipEqByte | skipNeByte | skipEq | skipNe | skipPressed | skipReleased =>
    obtain rfl := Except.ok.inj h
    exact Or.inl (m.pc_skipIf _)
  | random =>
    obtain ⟨byte, random, -, rfl⟩ := execute_random_iff.mp h
    exact Or.inl (Or.inl rfl)
  | restore =>
    simp only [execute] at h
    generalize m.registers.overwrite _ = registers at h
    obtain rfl := Except.ok.inj h
    exact Or.inl (Or.inl rfl)
  | awaitKey =>
    obtain rfl := Except.ok.inj h
    by_cases hreleased : KeyMask.released m.lastKeys m.keys = 0
    · rw [awaitKey_of_eq_zero hreleased]
      exact Or.inr ⟨rfl, hreleased, rfl⟩
    · obtain ⟨key, -, hkey⟩ := awaitKey_of_ne_zero hreleased w.x
      rw [hkey]
      exact Or.inl (Or.inl rfl)
  | _ =>
    obtain rfl := Except.ok.inj h
    exact Or.inl (Or.inl rfl)

/-- The flag of the display is raised by the operations that touch it, and never lowered. -/
theorem dirty_of_execute (h : m.execute w operation = .ok after) :
    after.display.dirty = (touchesDisplay operation || m.display.dirty) := by
  have hflag := m.execute_withFlag m.display.dirty w operation
  have hm : m.withFlag m.display.dirty = m := rfl
  rw [hm, h] at hflag
  have hafter := Except.ok.inj hflag
  exact congrArg (·.display.dirty) hafter

end Machine

/-! ## Words -/

namespace Word

variable {w : Word} {operation : Operation} {r : RegisterIndex}

/-- Registers that an instruction may write, told by the digits of its word. -/
def MayWrite (w : Word) (r : RegisterIndex) : Prop :=
  (r = w.x ∧ (w &&& 0xF000 ∈ [0x6000, 0x7000, 0xC000] ∨ w &&& 0xF00F = 0x8000 ∨
    w &&& 0xF0FF ∈ [0xF007, 0xF00A])) ∨
  ((r = w.x ∨ r = Registers.flag) ∧
    w &&& 0xF00F ∈ [0x8001, 0x8002, 0x8003, 0x8004, 0x8005, 0x8006, 0x8007, 0x800E]) ∨
  (r = Registers.flag ∧ w &&& 0xF000 = 0xD000) ∨
  (r ≤ w.x ∧ w &&& 0xF0FF = 0xF065)

instance (w : Word) (r : RegisterIndex) : Decidable (w.MayWrite r) :=
  inferInstanceAs (Decidable (_ ∨ _ ∨ _ ∨ _))

/-- The words that clear the display or draw on it. -/
def TouchesDisplay (w : Word) : Prop := w = 0x00E0 ∨ w &&& 0xF000 = 0xD000

instance (w : Word) : Decidable w.TouchesDisplay := inferInstanceAs (Decidable (_ ∨ _))

theorem mayWrite_of_writes (h : w.operation? = some operation) (hr : operation.Writes w r) :
    w.MayWrite r := by
  cases operation with
  | loadByte | addByte | random =>
    have hw : w &&& 0xF000 ∈ ([0x6000, 0x7000, 0xC000] : List UInt16) :=
      masked_mem_of_operation? h (by decide : _ ∈ [.loadByte, .addByte, .random]) (by decide)
    exact Or.inl ⟨hr, Or.inl hw⟩
  | copy => exact Or.inl ⟨hr, Or.inr (Or.inl (masked_of_operation? h rfl))⟩
  | readDelay | awaitKey =>
    have hw : w &&& 0xF0FF ∈ ([0xF007, 0xF00A] : List UInt16) :=
      masked_mem_of_operation? h (by decide : _ ∈ [.readDelay, .awaitKey]) (by decide)
    exact Or.inl ⟨hr, Or.inr (Or.inr hw)⟩
  | or | and | xor | add | sub | subFrom | shiftRight | shiftLeft =>
    refine Or.inr (Or.inl ⟨hr, masked_mem_of_operation? h
      (by decide : _ ∈ [.or, .and, .xor, .add, .sub, .subFrom, .shiftRight, .shiftLeft]) (by decide)⟩)
  | draw => exact Or.inr (Or.inr (Or.inl ⟨hr, masked_of_operation? h rfl⟩))
  | restore => exact Or.inr (Or.inr (Or.inr ⟨hr, masked_of_operation? h rfl⟩))
  | _ => exact absurd hr id

theorem touchesDisplay_iff (h : w.operation? = some operation) :
    Machine.touchesDisplay operation = true ↔ w.TouchesDisplay := by
  constructor
  · intro htouches
    cases operation with
    | clear =>
      have hw : w &&& 0xFFFF = 0x00E0 := masked_of_operation? h rfl
      rw [and_ones] at hw
      exact Or.inl hw
    | draw => exact Or.inr (masked_of_operation? h rfl)
    | _ => exact absurd htouches (by decide)
  · rintro (hw | hw)
    · have hclear : operation? 0x00E0 = some .clear := rfl
      rw [hw] at h
      rw [← Option.some.inj (hclear.symm.trans h)]
      rfl
    · have hop : operation = .draw := operation_eq_of_masked h hw (by decide)
      rw [hop]
      rfl

end Word

namespace Machine

variable {m after : Machine} {e : Executed}

theorem reg_of_cycle (h : m.cycle = (.ok e, after)) {r : RegisterIndex}
    (hr : after.reg r ≠ m.reg r) : m.fetch.MayWrite r := by
  obtain ⟨-, operation, executed, hop, hex, rfl⟩ := cycle_ok h
  apply Word.mayWrite_of_writes hop
  by_contra hwrites
  exact hr (reg_of_execute hex hwrites :)

theorem flag_of_cycle (h : m.cycle = (.ok e, after))
    (hw : m.fetch &&& 0xF000 = 0x7000 ∧ m.fetch.x ≠ Registers.flag ∨ m.fetch &&& 0xF0FF = 0xF01E) :
    after.reg Registers.flag = m.reg Registers.flag := by
  obtain ⟨-, operation, executed, hop, hex, rfl⟩ := cycle_ok h
  show executed.reg _ = _
  refine reg_of_execute hex ?_
  rcases hw with ⟨hw, hx⟩ | hw
  · have hadd : operation = .addByte := Word.operation_eq_of_masked hop hw (by decide)
    rw [hadd]
    exact hx.symm
  · have hadd : operation = .addIndex := Word.operation_eq_of_masked hop hw (by decide)
    rw [hadd]
    exact id

theorem index_of_cycle (h : m.cycle = (.ok e, after)) (hi : after.index ≠ m.index) :
    m.fetch &&& 0xF000 = 0xA000 ∨ m.fetch &&& 0xF0FF ∈ [0xF01E, 0xF029, 0xF055, 0xF065] := by
  obtain ⟨-, operation, executed, hop, hex, rfl⟩ := cycle_ok h
  have hmoves : operation.MovesIndex := by
    by_contra hmoves
    exact hi (index_of_execute hex hmoves :)
  cases operation with
  | loadIndex => exact Or.inl (Word.masked_of_operation? hop rfl)
  | addIndex | glyph | store | restore =>
    exact Or.inr (Word.masked_mem_of_operation? hop
      (by decide : _ ∈ [.addIndex, .glyph, .store, .restore]) (by decide))
  | _ => exact absurd hmoves id

theorem memory_of_cycle (h : m.cycle = (.ok e, after)) {c : Fin memorySize}
    (hc : after.memory.cells[c] ≠ m.memory.cells[c]) :
    ∃ k, c.val = (m.index.toNat + k) % memorySize ∧
      (m.fetch &&& 0xF0FF = 0xF033 ∧ k < 3 ∨ m.fetch &&& 0xF0FF = 0xF055 ∧ k ≤ m.fetch.x.val) := by
  obtain ⟨-, operation, executed, hop, hex, rfl⟩ := cycle_ok h
  obtain ⟨k, hk, hcell⟩ : ∃ k, k < operation.bytesWritten m.fetch ∧
      c.val = (m.index.toNat + k) % memorySize := by
    by_contra hnone
    refine hc (memory_of_execute hex fun k hk hcell => ?_)
    exact hnone ⟨k, hk, hcell⟩
  refine ⟨k, hcell, ?_⟩
  cases operation with
  | decimal => exact Or.inl ⟨Word.masked_of_operation? hop rfl, hk⟩
  | store => exact Or.inr ⟨Word.masked_of_operation? hop rfl, Nat.le_of_lt_succ hk⟩
  | _ => exact absurd hk (Nat.not_lt_zero k)

theorem slots_of_cycle (h : m.cycle = (.ok e, after)) {k : Fin stackSize}
    (hk : after.stack.slots.get k ≠ m.stack.slots.get k) :
    m.fetch &&& 0xF000 = 0x2000 ∧ k.val = (m.stack.pointer.toNat + 1) % stackSize := by
  obtain ⟨-, operation, executed, hop, hex, rfl⟩ := cycle_ok h
  replace hk : executed.stack.slots.get k ≠ m.stack.slots.get k := hk
  rw [(effect_of_execute hex).stack] at hk
  cases operation with
  | call =>
    have hslot : CallStack.slot (m.stack.pointer + 1) = k := by
      by_contra hne
      rw [stackAfter, CallStack.get_slots_push, if_neg hne] at hk
      exact hk rfl
    refine ⟨Word.masked_of_operation? hop rfl, ?_⟩
    rw [← hslot]
    show (m.stack.pointer + 1).toNat % stackSize = _
    have h1 : (1 : UInt8).toNat = 1 := rfl
    rw [UInt8.toNat_add, h1]
    simp only [stackSize]
    omega
  | _ => exact absurd rfl hk

theorem pointer_of_cycle_ne (h : m.cycle = (.ok e, after))
    (hp : after.stack.pointer ≠ m.stack.pointer) :
    m.fetch &&& 0xF000 = 0x2000 ∨ m.fetch = 0x00EE := by
  obtain ⟨-, operation, executed, hop, hex, rfl⟩ := cycle_ok h
  replace hp : executed.stack.pointer ≠ m.stack.pointer := hp
  rw [(effect_of_execute hex).stack] at hp
  cases operation with
  | call => exact Or.inl (Word.masked_of_operation? hop rfl)
  | ret =>
    have hw : m.fetch &&& 0xFFFF = 0x00EE := Word.masked_of_operation? hop rfl
    rw [Word.and_ones] at hw
    exact Or.inr hw
  | _ => exact absurd rfl hp

theorem timers_of_cycle (h : m.cycle = (.ok e, after)) :
    (after.timers.delay ≠ m.timers.delay → m.fetch &&& 0xF0FF = 0xF015) ∧
      (after.timers.sound ≠ m.timers.sound → m.fetch &&& 0xF0FF = 0xF018) := by
  have hset (timer : Timer) (hne : timer.value after.timers ≠ timer.value m.timers) :
      timer.IsSetBy m.fetch := by
    have hvalue := value_of_cycle h timer
    rw [(cycle_ok h).1] at hvalue
    by_contra hset
    rw [if_neg hset] at hvalue
    exact hne hvalue
  exact ⟨hset .delay, hset .sound⟩

theorem dirty_of_cycle (h : m.cycle = (.ok e, after)) :
    after.display.dirty = true ↔ m.display.dirty = true ∨ m.fetch.TouchesDisplay := by
  obtain ⟨-, operation, executed, hop, hex, rfl⟩ := cycle_ok h
  show executed.display.dirty = true ↔ _
  rw [dirty_of_execute hex, Bool.or_eq_true, Word.touchesDisplay_iff hop, or_comm]

theorem display_of_cycle (h : m.cycle = (.ok e, after)) (hw : ¬m.fetch.TouchesDisplay) :
    after.display = m.display := by
  obtain ⟨-, operation, executed, hop, hex, rfl⟩ := cycle_ok h
  show executed.display = _
  have htouches : touchesDisplay operation = false := by
    rw [← Bool.not_eq_true, Word.touchesDisplay_iff hop]
    exact hw
  exact display_of_execute hex htouches

/-- A run raises the flag of the display by the instructions that touch the display, and by these
alone changes the display at all. -/
theorem display_of_run (m : Machine) (run : List Stimulus) :
    ((m.after run).display.dirty = true ↔
        m.display.dirty = true ∨ ∃ e ∈ m.trace run, e.word.TouchesDisplay) ∧
      ((∀ e ∈ m.trace run, ¬e.word.TouchesDisplay) → (m.after run).display = m.display) := by
  let P (n : Machine) (past : List Executed) : Prop :=
    (n.display.dirty = true ↔ m.display.dirty = true ∨ ∃ e ∈ past, e.word.TouchesDisplay) ∧
      ((∀ e ∈ past, ¬e.word.TouchesDisplay) → n.display = m.display)
  have hstart : P m [] := ⟨by simp, fun _ => rfl⟩
  have hcycle (n : Machine) (past : List Executed) (e : Executed) (after : Machine) (h : P n past)
      (hc : n.cycle = (.ok e, after)) : P after (past ++ [e]) := by
    obtain ⟨rfl, -⟩ := cycle_ok hc
    refine ⟨?_, fun hnone => ?_⟩
    · rw [dirty_of_cycle hc, h.1, or_assoc]
      simp [or_and_right, exists_or]
    · have hpast : ∀ e ∈ past, ¬e.word.TouchesDisplay :=
        fun e he => hnone e (List.mem_append_left _ he)
      have hword : ¬n.fetch.TouchesDisplay :=
        hnone _ (List.mem_append_right _ List.mem_cons_self)
      rw [display_of_cycle hc hword, h.2 hpast]
  exact trace_induction hcycle (fun _ _ h => h) (fun _ _ _ h => h) hstart run

/-- The random source is drawn from exactly once by `Cxkk`, and never otherwise. -/
theorem random_of_cycle (h : m.cycle = (.ok e, after)) :
    after.random.word = m.random.word ∧
      after.random.drawn = m.random.drawn + if m.fetch &&& 0xF000 = 0xC000 then 1 else 0 := by
  obtain ⟨-, operation, executed, hop, hex, rfl⟩ := cycle_ok h
  show executed.random.word = _ ∧ executed.random.drawn = _
  by_cases hw : m.fetch &&& 0xF000 = 0xC000
  · have hrandom : operation = .random := Word.operation_eq_of_masked hop hw (by decide)
    rw [hrandom] at hex
    obtain ⟨byte, random, hdraw, rfl⟩ := execute_random_iff.mp hex
    obtain ⟨word, -, hword⟩ := Option.map_eq_some_iff.mp hdraw
    obtain ⟨-, rfl⟩ := Prod.mk.inj hword
    rw [if_pos hw]
    exact ⟨rfl, rfl⟩
  · have hop' : operation ≠ .random := by
      rintro rfl
      exact hw (Word.masked_of_operation? hop rfl)
    rw [if_neg hw, (effect_of_execute hex).random hop']
    exact ⟨rfl, rfl⟩

theorem pc_of_cycle (h : m.cycle = (.ok e, after)) :
    (after.pc = m.pc + 2 ∨ after.pc = m.pc + 4) ∨ m.fetch = 0x00EE ∨
      m.fetch &&& 0xF000 ∈ [0x1000, 0x2000, 0xB000] ∨
      m.fetch &&& 0xF0FF = 0xF00A ∧ KeyMask.released m.lastKeys m.keys = 0 ∧ after.pc = m.pc := by
  obtain ⟨-, operation, executed, hop, hex, rfl⟩ := cycle_ok h
  by_cases hjumps : operation ∈ [.ret, .jump, .call, .jumpOffset]
  · right
    by_cases hret : operation = .ret
    · rw [hret] at hop
      have hw : m.fetch &&& 0xFFFF = 0x00EE := Word.masked_of_operation? hop rfl
      rw [Word.and_ones] at hw
      exact Or.inl hw
    · have hmem : operation ∈ [.jump, .call, .jumpOffset] := List.mem_of_ne_of_mem hret hjumps
      exact Or.inr (Or.inl (Word.masked_mem_of_operation? hop hmem (by decide)))
  · rcases pc_of_execute hex hjumps with hpc | ⟨hwait, hreleased, hpc⟩
    · exact Or.inl hpc
    · rw [hwait] at hop
      exact Or.inr (Or.inr (Or.inr ⟨Word.masked_of_operation? hop rfl, hreleased, hpc⟩))

end Machine

/-! ## Main statement -/

/-- A cycle that succeeds changes nothing but what its instruction is for.

Registers are written only as `Word.MayWrite` tells from the digits of the word, memory only in the
three cells from `I` on by `Fx33` and in the `x + 1` cells from `I` on by `Fx55`, the call stack only in
the slot above the pointer by `2nnn`. The display is touched only by `00E0` and `Dxyn`, which raise its
flag; nothing lowers it. One word is drawn from the random source by `Cxkk`, and none otherwise. The
keys stay, and are remembered. The program counter moves on by one or two instructions, but for
jumps, calls, returns and an `Fx0A` that finds no key released. -/
theorem cycle_changes_nothing_else (m after : Machine) (e : Executed)
    (h : m.cycle = (.ok e, after)) :
    let w := m.fetch
    (∀ r, after.reg r ≠ m.reg r → w.MayWrite r) ∧
    (after.index ≠ m.index →
      w &&& 0xF000 = 0xA000 ∨ w &&& 0xF0FF ∈ [0xF01E, 0xF029, 0xF055, 0xF065]) ∧
    (∀ c : Fin memorySize, after.memory.cells[c] ≠ m.memory.cells[c] →
      ∃ k, c.val = (m.index.toNat + k) % memorySize ∧
        (w &&& 0xF0FF = 0xF033 ∧ k < 3 ∨ w &&& 0xF0FF = 0xF055 ∧ k ≤ w.x.val)) ∧
    (∀ k : Fin stackSize, after.stack.slots.get k ≠ m.stack.slots.get k →
      w &&& 0xF000 = 0x2000 ∧ k.val = (m.stack.pointer.toNat + 1) % stackSize) ∧
    (after.stack.pointer ≠ m.stack.pointer → w &&& 0xF000 = 0x2000 ∨ w = 0x00EE) ∧
    (after.timers.delay ≠ m.timers.delay → w &&& 0xF0FF = 0xF015) ∧
    (after.timers.sound ≠ m.timers.sound → w &&& 0xF0FF = 0xF018) ∧
    (after.display.bitmap ≠ m.display.bitmap → w.TouchesDisplay) ∧
    (after.display.dirty = true ↔ m.display.dirty = true ∨ w.TouchesDisplay) ∧
    (after.random.word = m.random.word ∧
      after.random.drawn = m.random.drawn + if w &&& 0xF000 = 0xC000 then 1 else 0) ∧
    after.keys = m.keys ∧ after.lastKeys = m.keys ∧
    (w &&& 0xF000 = 0x7000 ∧ w.x ≠ Registers.flag ∨ w &&& 0xF0FF = 0xF01E →
      after.reg Registers.flag = m.reg Registers.flag) ∧
    ((after.pc = m.pc + 2 ∨ after.pc = m.pc + 4) ∨ w = 0x00EE ∨
      w &&& 0xF000 ∈ [0x1000, 0x2000, 0xB000] ∨
      w &&& 0xF0FF = 0xF00A ∧ KeyMask.released m.lastKeys m.keys = 0 ∧ after.pc = m.pc) := by
  intro w
  obtain ⟨hdelay, hsound⟩ := Machine.timers_of_cycle h
  refine ⟨fun r => Machine.reg_of_cycle h, Machine.index_of_cycle h, fun c => Machine.memory_of_cycle h,
    fun k => Machine.slots_of_cycle h, Machine.pointer_of_cycle_ne h, hdelay, hsound, fun hbitmap => ?_,
    Machine.dirty_of_cycle h, Machine.random_of_cycle h, ?_, ?_, Machine.flag_of_cycle h,
    Machine.pc_of_cycle h⟩
  · by_contra hw
    exact hbitmap (congrArg Display.bitmap (Machine.display_of_cycle h hw))
  · have hkeys := m.keys_cycle
    rwa [h] at hkeys
  · obtain ⟨-, operation, executed, -, -, rfl⟩ := Machine.cycle_ok h
    rfl

/-- A machine that stores three registers in memory, from its last byte on. -/
def Machine.storingAtWrap : Machine :=
  { Machine.ofProgram [0xF2, 0x55] (.cyclic []) with index := 0xFFFF }

/-- Only the last byte of memory and the first two may change, and nothing happens to the registers,
the call stack and the display. -/
theorem cycle_changes_nothing_else_at_wrap :
    Machine.storingAtWrap.cycle = (.ok ⟨0x200, 0xF255⟩, Machine.storingAtWrap.cycle.2) ∧
    (∀ c : Fin memorySize, c.val ∉ [4095, 0, 1] →
      Machine.storingAtWrap.cycle.2.memory.cells[c] = Machine.storingAtWrap.memory.cells[c]) ∧
    (∀ r, Machine.storingAtWrap.cycle.2.reg r = Machine.storingAtWrap.reg r) ∧
    Machine.storingAtWrap.cycle.2.stack.pointer = Machine.storingAtWrap.stack.pointer ∧
    Machine.storingAtWrap.cycle.2.display.dirty = false := by
  have hr : Machine.storingAtWrap.random.Reliable := fun _ => rfl
  have hword : Machine.storingAtWrap.fetch = 0xF255 := by decide +kernel
  have hcycle := Machine.cycle_eq_of_isSome hr (by rw [hword]; decide)
  obtain ⟨hreg, -, hmemory, -, hpointer, -, -, -, hdirty, -⟩ := cycle_changes_nothing_else _ _ _ hcycle
  rw [hword] at hcycle hreg hmemory hpointer hdirty
  refine ⟨hcycle, fun c hc => ?_, fun r => ?_, ?_, ?_⟩
  · by_contra hne
    obtain ⟨k, hcell, ⟨hw, -⟩ | ⟨-, hk⟩⟩ := hmemory c hne
    · exact absurd hw (by decide)
    · have hk' : k ≤ 2 := hk
      have hindex : Machine.storingAtWrap.index.toNat = 65535 := rfl
      rw [hindex] at hcell
      simp only [memorySize, List.mem_cons, List.not_mem_nil] at hcell hc
      omega
  · by_contra hne
    have hnone : ∀ r, ¬Word.MayWrite 0xF255 r := by
      decide
    exact hnone r (hreg r hne)
  · by_contra hne
    exact absurd (hpointer hne) (by decide)
  · rw [← Bool.not_eq_true, hdirty]
    decide

end Chip8
