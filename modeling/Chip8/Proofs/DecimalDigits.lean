import Chip8.Proofs.RegisterTransfer
import Chip8.Rom

/-!
# The decimal digits of a register

`Fx33` stores the three decimal digits of `Vx` in memory and leaves the registers alone; `F265` loads
three bytes from there into the first registers. Programs print numbers by doing one after the other.
The digits are exact for every byte, also where they overwrite the register that they came from and
where they lie around the end of memory.
-/

namespace Chip8

/-! ## Digits of a byte -/

namespace Machine

theorem length_decimalDigits (b : UInt8) : (decimalDigits b).length = 3 := rfl

theorem le_nine_of_mem_decimalDigits {b d : UInt8} (h : d ∈ decimalDigits b) : d ≤ 9 := by
  have hb := b.toNat_lt
  have hten : (10 : UInt8).toNat = 10 := rfl
  have hundred : (100 : UInt8).toNat = 100 := rfl
  have hnine : (9 : UInt8).toNat = 9 := rfl
  simp only [decimalDigits, List.mem_cons, List.not_mem_nil, or_false] at h
  rw [UInt8.le_iff_toNat_le, hnine]
  rcases h with rfl | rfl | rfl
  · rw [UInt8.toNat_div, hundred]
    omega
  · rw [UInt8.toNat_mod, hten]
    omega
  · rw [UInt8.toNat_mod, hten]
    omega

/-- The decimal digits of a byte make up its value. -/
theorem value_decimalDigits (b : UInt8) :
    100 * (b / 100).toNat + 10 * (b / 10 % 10).toNat + (b % 10).toNat = b.toNat := by
  have hten : (10 : UInt8).toNat = 10 := rfl
  have hundred : (100 : UInt8).toNat = 100 := rfl
  rw [UInt8.toNat_mod, UInt8.toNat_mod, UInt8.toNat_div, UInt8.toNat_div, hten, hundred]
  omega

end Machine

/-! ## The instructions -/

namespace Registers

theorem get_overwrite_of_lt (r : Registers) {bytes : List UInt8} {k : RegisterIndex}
    (hk : k.val < bytes.length) : (r.overwrite bytes).get k = bytes[k.val] := by
  rw [get_overwrite, List.getElem?_eq_getElem hk, Option.getD_some]

theorem get_overwrite_of_le (r : Registers) {bytes : List UInt8} {k : RegisterIndex}
    (hk : bytes.length ≤ k) : (r.overwrite bytes).get k = r.get k := by
  rw [get_overwrite, List.getElem?_eq_none hk, Option.getD_none]

end Registers

namespace Word

/-- The word `Fx33`. -/
def converting (x : RegisterIndex) : Word := .ofNat (0xF033 + 0x100 * x)

theorem decode_converting (x : RegisterIndex) :
    (converting x).operation? = some .decimal ∧ (converting x).x = x :=
  decode_withRegister (p := ⟨.decimal, 0xF033, 0xF0FF⟩) (by decide) rfl x

end Word

namespace Machine

theorem execute_converting (m : Machine) (x : RegisterIndex) :
    m.execute (.converting x) .decimal = .ok { m with
      memory := m.memory.writeMany m.index (decimalDigits (m.reg x))
      pc := m.pc + Word.width } := by
  rw [execute, (Word.decode_converting x).2]
  rfl

/-- Loading three registers from where three bytes were written loads these bytes. -/
theorem exists_loaded_of_written (m : Machine) (pc : UInt16) {bytes : List UInt8}
    (hlen : bytes.length = 3) :
    ∃ loaded, { m with memory := m.memory.writeMany m.index bytes, pc := pc }.execute (.loading 2)
        .restore = .ok loaded ∧
      loaded.registers = m.registers.overwrite bytes ∧
      loaded.memory = m.memory.writeMany m.index bytes ∧ loaded.index = m.index + 3 := by
  have hfit : bytes.length ≤ memorySize := by
    rw [hlen]
    decide
  have hread := m.memory.readMany_writeMany m.index hfit
  have hcount : bytes.length = (2 : RegisterIndex).val + 1 := hlen
  rw [hcount] at hread
  exact ⟨_, execute_loading _ 2, congrArg m.registers.overwrite hread, rfl, rfl⟩

end Machine

/-! ## Main statement -/

/-- Converting `Vx` and then loading three registers leaves its decimal digits in `V0`, `V1` and `V2`,
whatever `x` is and wherever the index register points to. The digits also lie in the three cells from
there on, in this order, and neither the other cells nor the other registers change. The index register
moves on behind the digits, and does so only when they are loaded. -/
theorem decimal_digits_are_loaded (m : Machine) (x : RegisterIndex) :
    (Word.converting x).operation? = some .decimal ∧ (Word.loading 2).operation? = some .restore ∧
    ∃ converted loaded,
      m.execute (.converting x) .decimal = .ok converted ∧
      converted.registers = m.registers ∧ converted.index = m.index ∧
      converted.execute (.loading 2) .restore = .ok loaded ∧
      (∀ k ≤ 2, loaded.reg k ≤ 9) ∧
      100 * (loaded.reg 0).toNat + 10 * (loaded.reg 1).toNat + (loaded.reg 2).toNat =
        (m.reg x).toNat ∧
      (∀ k, 2 < k → loaded.reg k = m.reg k) ∧
      loaded.index.toNat = (m.index.toNat + 3) % 65536 ∧
      (∀ k : RegisterIndex, k ≤ 2 → ∀ c : Fin memorySize,
        c.val = (m.index.toNat + k) % memorySize → loaded.memory.cells.get c = loaded.reg k) ∧
      ∀ c : Fin memorySize,
        (∀ k : RegisterIndex, k ≤ 2 → c.val ≠ (m.index.toNat + k) % memorySize) →
        loaded.memory.cells.get c = m.memory.cells.get c := by
  have hlen := Machine.length_decimalDigits (m.reg x)
  obtain ⟨loaded, hloaded, hregisters, hmemory, hindex⟩ :=
    m.exists_loaded_of_written (m.pc + Word.width) hlen
  have hlt (k : RegisterIndex) (hk : k ≤ 2) : k.val < (Machine.decimalDigits (m.reg x)).length :=
    Nat.lt_succ_of_le hk
  have hdigit (k : RegisterIndex) (hk : k.val < (Machine.decimalDigits (m.reg x)).length) :
      loaded.reg k = (Machine.decimalDigits (m.reg x))[k.val] := by
    rw [Machine.reg, hregisters]
    exact m.registers.get_overwrite_of_lt hk
  refine ⟨(Word.decode_converting x).1, (Word.decode_loading 2).1, _, loaded,
    m.execute_converting x, rfl, rfl, hloaded, ?_, ?_, ?_, ?_, ?_, ?_⟩
  · intro k hk
    rw [hdigit k (hlt k hk)]
    exact Machine.le_nine_of_mem_decimalDigits (List.getElem_mem _)
  · rw [hdigit 0 (hlt 0 (by decide)), hdigit 1 (hlt 1 (by decide)), hdigit 2 (hlt 2 (by decide))]
    exact Machine.value_decimalDigits (m.reg x)
  · intro k hk
    rw [Machine.reg, hregisters]
    exact m.registers.get_overwrite_of_le hk
  · rw [hindex]
    exact Machine.toNat_index_add m.index 2
  · intro k hk c hc
    rw [hdigit k (hlt k hk), hmemory]
    exact m.memory.get_writeMany m.index (by rw [hlen]; decide) (hlt k hk) hc
  · intro c hc
    rw [hmemory]
    refine m.memory.get_writeMany_of_ne m.index _ fun k hk => ?_
    have hk' : k < 16 := Nat.lt_trans hk (by rw [hlen]; decide)
    exact hc ⟨k, hk'⟩ (Nat.le_of_lt_succ hk)

/-- A machine with 254 in the first register and its index register at the last cell. -/
def Machine.counting : Machine :=
  { Machine.ofProgram [] (.cyclic []) with
    registers := Registers.zero.put Registers.first 254
    index := 0xFFF }

/-- The digits of the first register take its own place, and lie around the end of memory. -/
theorem decimal_digits_are_loaded_at_wrap :
    ∃ converted loaded,
      Machine.counting.execute (.converting Registers.first) .decimal = .ok converted ∧
      converted.execute (.loading 2) .restore = .ok loaded ∧
      loaded.reg 0 = 2 ∧ loaded.reg 1 = 5 ∧ loaded.reg 2 = 4 ∧ loaded.reg 3 = 0 ∧
      loaded.memory.cells.get 4095 = 2 ∧ loaded.memory.cells.get 0 = 5 ∧
      loaded.memory.cells.get 2 = Machine.counting.memory.cells.get 2 := by
  obtain ⟨-, -, converted, loaded, hconverted, -, -, hloaded, hnine, hvalue, hrest, -, hcells,
    hothers⟩ := decimal_digits_are_loaded .counting Registers.first
  have hregister : (Machine.counting.reg Registers.first).toNat = 254 := by decide +kernel
  have hzero : loaded.reg 0 ≤ 9 := hnine 0 (by decide)
  have hone : loaded.reg 1 ≤ 9 := hnine 1 (by decide)
  have htwo : loaded.reg 2 ≤ 9 := hnine 2 (by decide)
  have hdigits : loaded.reg 0 = 2 ∧ loaded.reg 1 = 5 ∧ loaded.reg 2 = 4 := by
    have hbound : (9 : UInt8).toNat = 9 := rfl
    rw [UInt8.le_iff_toNat_le, hbound] at hzero hone htwo
    rw [hregister] at hvalue
    simp only [← UInt8.toNat_inj]
    refine ⟨?_, ?_, ?_⟩
    · show (loaded.reg 0).toNat = 2
      omega
    · show (loaded.reg 1).toNat = 5
      omega
    · show (loaded.reg 2).toNat = 4
      omega
  obtain ⟨hfirst, hsecond, hthird⟩ := hdigits
  refine ⟨converted, loaded, hconverted, hloaded, hfirst, hsecond, hthird, ?_, ?_, ?_, ?_⟩
  · exact (hrest 3 (by decide)).trans (by decide +kernel)
  · exact (hcells 0 (by decide) 4095 (by decide)).trans hfirst
  · exact (hcells 1 (by decide) 0 (by decide)).trans hsecond
  · exact hothers 2 (by decide)

end Chip8
