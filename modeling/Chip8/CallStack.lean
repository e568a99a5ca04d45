/-!
# The call stack

Return addresses lie in a ring of 32 slots. A call advances the pointer and writes, a return reads and
takes the pointer back, so the ring holds the newest 32 addresses whatever the pointer was at first.
-/

namespace Chip8

/-- How many return addresses the stack has room for. -/
abbrev stackSize : Nat := 32

/-- A ring of return addresses. The pointer names the newest one; it is a byte that wraps around, and
only its value modulo the size of the ring counts. -/
structure CallStack where
  /-- The return addresses. -/
  slots : Vector UInt16 stackSize
  /-- Where the newest return address is. -/
  pointer : UInt8
deriving DecidableEq

namespace CallStack

/-- All slots zero, the pointer at the first. -/
def empty : CallStack := ⟨Vector.replicate stackSize 0, 0⟩

/-- The slot that a pointer value stands for. -/
def slot (pointer : UInt8) : Fin stackSize :=
  ⟨pointer.toNat % stackSize, Nat.mod_lt _ (by decide)⟩

/-- The newest return address. -/
def top (s : CallStack) : UInt16 := s.slots.get (slot s.pointer)

/-- Advances the pointer and puts a return address there. -/
def push (s : CallStack) (address : UInt16) : CallStack :=
  ⟨s.slots.set (slot (s.pointer + 1)) address, s.pointer + 1⟩

/-- Takes the pointer one slot back. -/
def drop (s : CallStack) : CallStack :=
  { s with pointer := s.pointer - 1 }

/-- Pushing an address changes one slot. -/
theorem get_slots_push (s : CallStack) (address : UInt16) (k : Fin stackSize) :
    (s.push address).slots.get k =
      if slot (s.pointer + 1) = k then address else s.slots.get k := by
  show (s.slots.set (slot (s.pointer + 1)) address)[k] = if _ then _ else s.slots[k]
  simp [Vector.getElem_set, Fin.ext_iff]

/-- The newest address is the one pushed last. -/
@[simp] theorem top_push (s : CallStack) (address : UInt16) : (s.push address).top = address := by
  exact (get_slots_push s address _).trans (if_pos rfl)

/-- A return undoes what a call did to the pointer. -/
@[simp] theorem pointer_drop_push (s : CallStack) (address : UInt16) :
    (s.push address).drop.pointer = s.pointer := by
  simp [push, drop]

end CallStack

end Chip8
