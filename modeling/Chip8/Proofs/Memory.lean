import Chip8.Memory

/-!
# Writing to memory and reading it

Bytes that are written from an address on lie in consecutive cells, with the first cell behind the last
one. Every other cell keeps its byte. Reading from the same address on finds the bytes again.
-/

namespace Chip8.Memory

theorem get_write_of_ne (m : Memory) {a : UInt16} (byte : UInt8) {c : Fin memorySize}
    (h : c ≠ cell a) : (m.write a byte).cells.get c = m.cells.get c := by
  have hne : (cell a).val ≠ c.val := fun heq => h (Fin.ext heq.symm)
  exact Vector.getElem_set_ne (cell a).isLt c.isLt hne

theorem cell_succ (a : UInt16) (k : Nat) :
    ((a + 1).toNat + k) % memorySize = (a.toNat + (k + 1)) % memorySize := by
  have h1 : (1 : UInt16).toNat = 1 := rfl
  rw [UInt16.toNat_add, h1]
  simp only [memorySize]
  omega

/-- Bytes that are written one after another leave the cells alone that lie behind the last one. -/
theorem get_writeMany_of_ne (m : Memory) (a : UInt16) (bytes : List UInt8) {c : Fin memorySize}
    (h : ∀ k < bytes.length, c.val ≠ (a.toNat + k) % memorySize) :
    (m.writeMany a bytes).cells.get c = m.cells.get c := by
  induction bytes generalizing m a with
  | nil => rfl
  | cons byte rest ih =>
    have hfirst : c ≠ cell a := by
      intro heq
      have hval : c.val = a.toNat % memorySize := congrArg Fin.val heq
      exact h 0 (Nat.succ_pos _) hval
    have hrest : ∀ k < rest.length, c.val ≠ ((a + 1).toNat + k) % memorySize := by
      intro k hk
      rw [cell_succ]
      exact h (k + 1) (Nat.succ_lt_succ hk)
    rw [writeMany, ih _ _ hrest, get_write_of_ne m byte hfirst]

/-- Bytes that are written one after another can be read again, if none is written twice. -/
theorem get_writeMany (m : Memory) (a : UInt16) {bytes : List UInt8}
    (hlen : bytes.length ≤ memorySize) {k : Nat} (hk : k < bytes.length) {c : Fin memorySize}
    (hc : c.val = (a.toNat + k) % memorySize) : (m.writeMany a bytes).cells.get c = bytes[k] := by
  induction bytes generalizing m a k with
  | nil => exact absurd hk (Nat.not_lt_zero k)
  | cons byte rest ih =>
    rw [List.length_cons] at hlen hk
    cases k with
    | zero =>
      -- The later bytes do not come around to the cell of the first one.
      have hlater : ∀ j < rest.length, c.val ≠ ((a + 1).toNat + j) % memorySize := by
        intro j hj
        rw [cell_succ, hc]
        simp only [memorySize] at hlen ⊢
        omega
      have hcell : c = cell a := Fin.ext hc
      rw [writeMany, get_writeMany_of_ne _ _ _ hlater, hcell]
      exact Vector.getElem_set_self _
    | succ k =>
      rw [writeMany, List.getElem_cons_succ]
      refine ih (m.write a byte) (a + 1) (Nat.le_of_succ_le hlen) (Nat.lt_of_succ_lt_succ hk) ?_
      rw [cell_succ, hc]

theorem getElem_readMany (m : Memory) (a : UInt16) {count k : Nat}
    (hk : k < (m.readMany a count).length) {c : Fin memorySize}
    (hc : c.val = (a.toNat + k) % memorySize) : (m.readMany a count)[k] = m.cells.get c := by
  induction count generalizing a k with
  | zero => exact absurd hk (Nat.not_lt_zero k)
  | succ count ih =>
    cases k with
    | zero =>
      obtain rfl : c = cell a := Fin.ext hc
      rfl
    | succ k =>
      refine ih (a + 1) (Nat.lt_of_succ_lt_succ hk) ?_
      rw [cell_succ, hc]

/-- What was written can be read again, if it is not longer than memory. -/
theorem readMany_writeMany (m : Memory) (a : UInt16) {bytes : List UInt8}
    (hlen : bytes.length ≤ memorySize) : (m.writeMany a bytes).readMany a bytes.length = bytes := by
  apply List.ext_getElem
  · rw [length_readMany]
  · intro k hread hk
    let c : Fin memorySize := ⟨(a.toNat + k) % memorySize, Nat.mod_lt _ (by decide)⟩
    rw [getElem_readMany _ a hread (rfl : c.val = _), get_writeMany m a hlen hk rfl]

theorem write_read (m : Memory) (a : UInt16) : m.write a (m.read a) = m :=
  congrArg Memory.mk (Vector.set_getElem_self (cell a).isLt)

/-- Writing back what was read changes nothing, even if it is longer than memory. -/
theorem writeMany_readMany (m : Memory) (a : UInt16) (count : Nat) :
    m.writeMany a (m.readMany a count) = m := by
  induction count generalizing a with
  | zero => rfl
  | succ count ih => rw [readMany, writeMany, write_read, ih]

end Chip8.Memory
