/-!
# Memory

4096 bytes. Addresses are 16-bit words, of which only the value modulo 4096 counts: every access
reduces its address first, so no address is out of range.
-/

namespace Chip8

/-- Bytes of memory. -/
abbrev memorySize : Nat := 4096

/-- The memory of the machine. -/
structure Memory where
  /-- The bytes in order of their addresses. -/
  cells : Vector UInt8 memorySize
deriving DecidableEq

namespace Memory

/-- The cell that an address stands for. -/
def cell (address : UInt16) : Fin memorySize :=
  ⟨address.toNat % memorySize, Nat.mod_lt _ (by decide)⟩

/-- All bytes zero. -/
def zero : Memory := ⟨Vector.replicate memorySize 0⟩

/-- The byte at an address. -/
def read (m : Memory) (address : UInt16) : UInt8 := m.cells[cell address]

/-- Changes the byte at an address. -/
def write (m : Memory) (address : UInt16) (byte : UInt8) : Memory :=
  ⟨m.cells.set (cell address) byte⟩

/-- A number of bytes from an address on. -/
def readMany (m : Memory) (address : UInt16) : (count : Nat) → List UInt8
  | 0 => []
  | count + 1 => m.read address :: m.readMany (address + 1) count

/-- Writes bytes one after another from an address on. -/
def writeMany (m : Memory) (address : UInt16) : (bytes : List UInt8) → Memory
  | [] => m
  | byte :: rest => (m.write address byte).writeMany (address + 1) rest

/-- Addresses that stand for the same cell cannot be told apart. -/
theorem read_congr (m : Memory) {a c : UInt16} (h : cell a = cell c) : m.read a = m.read c := by
  simp [read, h]

/-- Exactly as many bytes are read as asked for. -/
@[simp] theorem length_readMany (m : Memory) (address : UInt16) (count : Nat) :
    (m.readMany address count).length = count := by
  induction count generalizing address with
  | zero => rfl
  | succ count ih => simp [readMany, ih]

end Memory

end Chip8
