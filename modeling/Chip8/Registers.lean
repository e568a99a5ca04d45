import Chip8.Word

/-!
# Registers

The register file: sixteen bytes, of which the last one doubles as the flag.
-/

namespace Chip8

/-- The sixteen general registers. -/
abbrev Registers := Vector UInt8 16

namespace Registers

/-- The number of the first register. -/
def first : RegisterIndex := .ofNat 16 0

/-- The number of the register that doubles as the flag. -/
def flag : RegisterIndex := 15

/-- All registers zero. -/
def zero : Registers := Vector.replicate 16 0

/-- Gives a register a new value. -/
def put (r : Registers) (x : RegisterIndex) (value : UInt8) : Registers :=
  Vector.set r x value

/-- Sets the flag register to one or zero. -/
def setFlag (r : Registers) (raised : Bool) : Registers :=
  r.put flag (if raised then 1 else 0)

/-- The registers up to and including `x`, in order. -/
def upTo (r : Registers) (x : RegisterIndex) : List UInt8 :=
  r.toList.take (x + 1)

/-- Gives the first registers new values and keeps the others. -/
def overwrite (r : Registers) (bytes : List UInt8) : Registers :=
  Vector.ofFn fun k : Fin 16 => bytes[k.val]?.getD (r.get k)

/-- A register reads as what was put there last. -/
theorem get_put (r : Registers) (x y : RegisterIndex) (value : UInt8) :
    (r.put x value).get y = if x = y then value else r.get y := by
  show (Vector.set r x value)[y] = if x = y then value else r[y]
  simp [Vector.getElem_set, Fin.ext_iff]

/-- The register that is overwritten last is the one that shows. -/
@[simp] theorem get_put_self (r : Registers) (x : RegisterIndex) (value : UInt8) :
    (r.put x value).get x = value := by
  simp [get_put]

/-- Overwriting changes as many registers as there are bytes. -/
theorem get_overwrite (r : Registers) (bytes : List UInt8) (x : RegisterIndex) :
    (r.overwrite bytes).get x = bytes[x.val]?.getD (r.get x) := by
  show (Vector.ofFn fun k : Fin 16 => bytes[k.val]?.getD (r.get k))[x] = _
  simp

end Registers

end Chip8
