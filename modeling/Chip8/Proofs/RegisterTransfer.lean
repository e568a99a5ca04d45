import Chip8.Proofs.InstructionSet
import Chip8.Proofs.Memory
import Chip8.Machine.Cycle

/-!
# Storing and loading registers

`Fx55` stores the registers up to `Vx` in memory and `Fx65` loads them from there. Both go through the
same cells, which wrap around with the memory and never meet each other again, and both move the index
register on by as many. So each of the two undoes the other, wherever the index register points to.
-/

namespace Chip8

/-! ## Registers as bytes -/

namespace Registers

variable {r : Registers} {x : RegisterIndex}

@[simp] theorem length_upTo (r : Registers) (x : RegisterIndex) : (r.upTo x).length = x + 1 := by
  rw [upTo, List.length_take, Vector.length_toList]
  omega

theorem getElem?_upTo (r : Registers) {x k : RegisterIndex} (hk : k ≤ x) :
    (r.upTo x)[k.val]? = some (r.get k) := by
  rw [upTo, List.getElem?_take_of_lt (Nat.lt_succ_of_le hk), Vector.getElem?_toList]
  exact Vector.getElem?_eq_getElem k.isLt

theorem upTo_overwrite (r : Registers) {x : RegisterIndex} {bytes : List UInt8}
    (hlen : bytes.length = x + 1) : (r.overwrite bytes).upTo x = bytes := by
  apply List.ext_getElem?
  intro k
  by_cases hk : k ≤ x
  · let k' : RegisterIndex := ⟨k, Nat.lt_of_le_of_lt hk x.isLt⟩
    have hbyte : k < bytes.length := by omega
    have hget : ((r.overwrite bytes).upTo x)[k]? = some ((r.overwrite bytes).get k') :=
      getElem?_upTo _ (k := k') hk
    rw [hget, get_overwrite, List.getElem?_eq_getElem hbyte, Option.getD_some]
  · have hbyte : bytes.length ≤ k := by omega
    have hupTo : ((r.overwrite bytes).upTo x).length ≤ k := by
      rw [length_upTo]
      omega
    rw [List.getElem?_eq_none hbyte, List.getElem?_eq_none hupTo]

theorem get_overwrite_upTo (r contents : Registers) (x k : RegisterIndex) :
    (contents.overwrite (r.upTo x)).get k = if k ≤ x then r.get k else contents.get k := by
  rw [get_overwrite]
  by_cases hk : k ≤ x
  · rw [if_pos hk, getElem?_upTo r hk, Option.getD_some]
  · have hlen : (r.upTo x).length ≤ k := by
      rw [length_upTo]
      exact Nat.lt_of_not_le hk
    rw [if_neg hk, List.getElem?_eq_none hlen, Option.getD_none]

end Registers

/-! ## The two instructions -/

namespace Word

/-- The word `Fx55`. -/
def storing (x : RegisterIndex) : Word := .ofNat (0xF055 + 0x100 * x)

/-- The word `Fx65`. -/
def loading (x : RegisterIndex) : Word := .ofNat (0xF065 + 0x100 * x)

theorem decode_storing (x : RegisterIndex) :
    (storing x).operation? = some .store ∧ (storing x).x = x :=
  decode_withRegister (p := ⟨.store, 0xF055, 0xF0FF⟩) (by decide) rfl x

theorem decode_loading (x : RegisterIndex) :
    (loading x).operation? = some .restore ∧ (loading x).x = x :=
  decode_withRegister (p := ⟨.restore, 0xF065, 0xF0FF⟩) (by decide) rfl x

end Word

namespace Machine

theorem execute_storing (m : Machine) (x : RegisterIndex) :
    m.execute (.storing x) .store = .ok { m with
      memory := m.memory.writeMany m.index (m.registers.upTo x)
      index := m.index + (x.val + 1).toUInt16
      pc := m.pc + Word.width } := by
  rw [execute, (Word.decode_storing x).2]
  rfl

theorem execute_loading (m : Machine) (x : RegisterIndex) :
    m.execute (.loading x) .restore = .ok { m with
      registers := m.registers.overwrite (m.memory.readMany m.index (x + 1))
      index := m.index + (x.val + 1).toUInt16
      pc := m.pc + Word.width } := by
  rw [execute, (Word.decode_loading x).2]
  rfl

theorem toNat_index_add (index : UInt16) (x : RegisterIndex) :
    (index + (x.val + 1).toUInt16).toNat = (index.toNat + x + 1) % 65536 := by
  rw [UInt16.toNat_add]
  show (index.toNat + (x.val + 1) % 65536) % 65536 = _
  omega

end Machine

/-! ## Main statement -/

/-- Storing the registers up to `Vx` puts them into consecutive cells, which may wrap around, and
changes no other cell and no register; loading them from the same address gives these registers their
values back whatever they contain by then, and changes no other register and no cell. Storing what was
loaded from the same address leaves memory as it was. Each time the index register moves on behind the
last cell. -/
theorem storing_and_loading_invert (m : Machine) (x : RegisterIndex) :
    let behind := (m.index.toNat + x + 1) % 65536
    (Word.storing x).operation? = some .store ∧ (Word.loading x).operation? = some .restore ∧
    (∃ stored, m.execute (.storing x) .store = .ok stored ∧
      (∀ k ≤ x, ∀ c : Fin memorySize, c.val = (m.index.toNat + k) % memorySize →
        stored.memory.cells.get c = m.reg k) ∧
      (∀ c : Fin memorySize, (∀ k ≤ x, c.val ≠ (m.index.toNat + k) % memorySize) →
        stored.memory.cells.get c = m.memory.cells.get c) ∧
      stored.registers = m.registers ∧ stored.index.toNat = behind ∧
      ∀ contents, ∃ loaded,
        { stored with registers := contents, index := m.index }.execute (.loading x) .restore =
          .ok loaded ∧
        (∀ k, loaded.reg k = if k ≤ x then m.reg k else contents.get k) ∧
        loaded.memory = stored.memory ∧ loaded.index.toNat = behind) ∧
    (∃ loaded, m.execute (.loading x) .restore = .ok loaded ∧
      ∃ stored, { loaded with index := m.index }.execute (.storing x) .store = .ok stored ∧
        stored.memory = m.memory) := by
  intro behind
  have hbehind := Machine.toNat_index_add m.index x
  have hlen : (m.registers.upTo x).length ≤ memorySize := by
    rw [Registers.length_upTo, memorySize]
    omega
  refine ⟨(Word.decode_storing x).1, (Word.decode_loading x).1, ?_, ?_⟩
  · refine ⟨_, m.execute_storing x, ?_, ?_, rfl, hbehind, ?_⟩
    · intro k hk c hc
      have hget : (m.registers.upTo x)[k.val]? = some (m.reg k) := m.registers.getElem?_upTo hk
      obtain ⟨hlt, hbyte⟩ := List.getElem?_eq_some_iff.mp hget
      rw [← hbyte]
      exact m.memory.get_writeMany m.index hlen hlt hc
    · intro c hc
      refine m.memory.get_writeMany_of_ne m.index _ fun k hk => ?_
      rw [Registers.length_upTo] at hk
      exact hc ⟨k, by omega⟩ (Nat.le_of_lt_succ hk)
    · intro contents
      refine ⟨_, Machine.execute_loading _ x, ?_, rfl, hbehind⟩
      intro k
      have hread := m.memory.readMany_writeMany m.index hlen
      rw [Registers.length_upTo] at hread
      have hget := m.registers.get_overwrite_upTo contents x k
      rw [← hread] at hget
      exact hget
  · have hloaded := m.execute_loading x
    have hupTo := m.registers.upTo_overwrite (m.memory.length_readMany m.index (x + 1))
    generalize m.registers.overwrite _ = registers at hloaded hupTo
    refine ⟨_, hloaded, _, Machine.execute_storing _ x, ?_⟩
    show m.memory.writeMany m.index (registers.upTo x) = m.memory
    rw [hupTo, Memory.writeMany_readMany]

end Chip8
