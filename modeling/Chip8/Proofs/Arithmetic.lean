import Chip8.Proofs.Cycle
import Chip8.Proofs.InstructionSet
import Chip8.Rom
import Mathlib.Data.Nat.Bitwise
import Mathlib.Logic.Function.Basic

/-!
# Arithmetic on registers

Eight instructions compute a value and a flag from two registers. Both are functions of the operands
as they were before the instruction, in exact integers, whichever of the registers coincide. The value
is put into the first operand and then the flag into the flag register, so that the flag shows where
the two are one register.
-/

namespace Chip8

/-! ## Registers as numbers -/

namespace Registers

/-- The values of the registers as numbers. -/
def values (r : Registers) : RegisterIndex → Nat := fun x => (r.get x).toNat

theorem values_put (r : Registers) (x : RegisterIndex) (value : UInt8) :
    (r.put x value).values = Function.update r.values x value.toNat := by
  funext y
  rw [values, get_put, Function.update_apply]
  by_cases h : x = y
  · rw [if_pos h, if_pos h.symm]
  · rw [if_neg h, if_neg (Ne.symm h)]
    rfl

theorem values_setFlag (r : Registers) (raised : Bool) :
    (r.setFlag raised).values = Function.update r.values flag raised.toNat := by
  rw [setFlag, values_put]
  cases raised <;> rfl

end Registers

/-! ## The eight instructions -/

/-- The instructions `8xyn` that set the flag. -/
inductive Arithmetic
  | or
  | and
  | xor
  | add
  | sub
  | shiftRight
  | subFrom
  | shiftLeft
deriving DecidableEq, Repr

namespace Arithmetic

/-- What the instruction is in the instruction table. -/
def operation : Arithmetic → Operation
  | or => .or
  | and => .and
  | xor => .xor
  | add => .add
  | sub => .sub
  | shiftRight => .shiftRight
  | subFrom => .subFrom
  | shiftLeft => .shiftLeft

/-- The last digit of the instruction word. -/
def digit : Arithmetic → Nat
  | or => 1
  | and => 2
  | xor => 3
  | add => 4
  | sub => 5
  | shiftRight => 6
  | subFrom => 7
  | shiftLeft => 14

theorem digit_lt (kind : Arithmetic) : kind.digit < 16 := by
  cases kind <;> decide

/-- The value for the operands `a` and `b`. -/
def result (a b : Nat) : Arithmetic → Nat
  | or => a ||| b
  | and => a &&& b
  | xor => a ^^^ b
  | add => (a + b) % 256
  | sub => (((a : Int) - b) % 256).toNat
  | shiftRight => b / 2
  | subFrom => (((b : Int) - a) % 256).toNat
  | shiftLeft => 2 * b % 256

/-- The flag for the operands `a` and `b`. -/
def flag (a b : Nat) : Arithmetic → Nat
  | or | and | xor => 0
  | add => if a + b > 255 then 1 else 0
  | sub => if a > b then 1 else 0
  | shiftRight => b % 2
  | subFrom => if b > a then 1 else 0
  | shiftLeft => b / 128

/-- The value as a byte, computed with wrapping operations. -/
def byte (a b : UInt8) : Arithmetic → UInt8
  | or => a ||| b
  | and => a &&& b
  | xor => a ^^^ b
  | add => a + b
  | sub => a - b
  | shiftRight => b >>> 1
  | subFrom => b - a
  | shiftLeft => b <<< 1

/-- Whether the flag is raised, told from the bytes. -/
def raised (a b : UInt8) : Arithmetic → Bool
  | or | and | xor => false
  | add => decide (a.toNat + b.toNat > 255)
  | sub => a > b
  | shiftRight => b &&& 0x01 == 0x01
  | subFrom => b > a
  | shiftLeft => b &&& 0x80 == 0x80

theorem execute_operation (kind : Arithmetic) (m : Machine) (w : Word) :
    m.execute w kind.operation =
      .ok (m.setRegFlag w.x (kind.byte (m.reg w.x) (m.reg w.y))
        (kind.raised (m.reg w.x) (m.reg w.y))).next := by
  cases kind <;> rfl

/-! ## Bytes and exact integers -/

theorem toNat_sub_eq (a b : UInt8) : (a - b).toNat = (((a.toNat : Int) - b.toNat) % 256).toNat := by
  have ha := a.toNat_lt
  have hb := b.toNat_lt
  rw [UInt8.toNat_sub]
  omega

theorem toNat_byte (kind : Arithmetic) (a b : UInt8) :
    (kind.byte a b).toNat = kind.result a.toNat b.toNat := by
  cases kind with
  | or => exact UInt8.toNat_or a b
  | and => exact UInt8.toNat_and a b
  | xor => exact UInt8.toNat_xor a b
  | add => exact UInt8.toNat_add a b
  | sub => exact toNat_sub_eq a b
  | subFrom => exact toNat_sub_eq b a
  | shiftRight =>
    show (b >>> 1).toNat = b.toNat / 2
    rw [UInt8.toNat_shiftRight, Nat.shiftRight_eq_div_pow]
    rfl
  | shiftLeft =>
    show (b <<< 1).toNat = 2 * b.toNat % 256
    rw [UInt8.toNat_shiftLeft, Nat.shiftLeft_eq, Nat.mul_comm]
    rfl

/-- Whether a bit is set, told by masking. -/
theorem and_bit_beq (b : UInt8) {bit : UInt8} {k : Nat} (hbit : bit.toNat = 2 ^ k) :
    (b &&& bit == bit) = b.toNat.testBit k := by
  have hne : 0 ≠ 2 ^ k := (Nat.two_pow_pos k).ne
  rw [Bool.eq_iff_iff, beq_iff_eq, ← UInt8.toNat_inj, UInt8.toNat_and, hbit, Nat.and_two_pow]
  cases b.toNat.testBit k <;> simp [hne]

theorem toNat_decide (p : Prop) [Decidable p] : (decide p).toNat = if p then 1 else 0 := by
  by_cases h : p <;> simp [h]

theorem toNat_raised (kind : Arithmetic) (a b : UInt8) :
    (kind.raised a b).toNat = kind.flag a.toNat b.toNat := by
  cases kind with
  | or | and | xor => rfl
  | add | sub | subFrom => exact toNat_decide _
  | shiftRight =>
    show (b &&& 0x01 == 0x01).toNat = b.toNat % 2
    rw [and_bit_beq b (k := 0) rfl, Nat.toNat_testBit, Nat.pow_zero, Nat.div_one]
  | shiftLeft =>
    have hb := b.toNat_lt
    show (b &&& 0x80 == 0x80).toNat = b.toNat / 128
    rw [and_bit_beq b (k := 7) rfl, Nat.toNat_testBit]
    omega

/-! ## Decoding -/

/-- The digits of a word `8xyn` that tell its operation. -/
theorem and_mask_eq (x y n : Fin 16) :
    UInt16.ofNat (0x8000 + 0x100 * x + 0x10 * y + n) &&& 0xF00F = 0x8000 + UInt16.ofNat n := by
  revert x y n
  decide +kernel

/-- The entry of the instruction in the instruction table. -/
def pattern (kind : Arithmetic) : Pattern := ⟨kind.operation, 0x8000 + UInt16.ofNat kind.digit, 0xF00F⟩

variable {kind : Arithmetic} {w : Word} {x y : RegisterIndex}

theorem operation?_eq (hw : w.toNat = 0x8000 + 0x100 * x + 0x10 * y + kind.digit) :
    w.operation? = some kind.operation := by
  have hmatches : kind.pattern.Matches w := by
    show w &&& 0xF00F = _
    rw [← UInt16.ofNat_toNat (x := w), hw]
    exact and_mask_eq x y ⟨kind.digit, kind.digit_lt⟩
  have hmem : kind.pattern ∈ instructionSet := by
    cases kind <;> decide
  refine Word.operation?_of_matches hmem hmatches ?_
  cases kind <;> decide

theorem x_eq (hw : w.toNat = 0x8000 + 0x100 * x + 0x10 * y + kind.digit) : w.x = x := by
  have hdigit := kind.digit_lt
  apply Fin.ext
  show w.toNat >>> 8 % 16 = x
  rw [hw, Nat.shiftRight_eq_div_pow]
  omega

theorem y_eq (hw : w.toNat = 0x8000 + 0x100 * x + 0x10 * y + kind.digit) : w.y = y := by
  have hdigit := kind.digit_lt
  apply Fin.ext
  show w.toNat >>> 4 % 16 = y
  rw [hw, Nat.shiftRight_eq_div_pow]
  omega

end Arithmetic

/-! ## Main statement -/

/-- Executing `8xyn`, for `n` from `1` to `7` and `E`, puts the exact result of the operands into `Vx`
and then their flag into `VF`, whichever of `x`, `y` and `F` coincide. Apart from the registers only
the program counter moves on and the keys are remembered. -/
theorem arithmetic_puts_result_then_flag (m : Machine) (kind : Arithmetic) (x y : RegisterIndex)
    (hw : m.fetch.toNat = 0x8000 + 0x100 * x + 0x10 * y + kind.digit) :
    let a := (m.reg x).toNat
    let b := (m.reg y).toNat
    ∃ registers : Registers,
      m.cycle =
        (.ok ⟨m.pc, m.fetch⟩,
          { m with registers := registers, pc := m.pc + 2, lastKeys := m.keys }) ∧
      registers.values =
        Function.update (Function.update m.registers.values x (kind.result a b)) 0xF
          (kind.flag a b) := by
  intro a b
  have hexecute := kind.execute_operation m m.fetch
  rw [Arithmetic.x_eq hw, Arithmetic.y_eq hw] at hexecute
  refine ⟨(m.registers.put x (kind.byte (m.reg x) (m.reg y))).setFlag
    (kind.raised (m.reg x) (m.reg y)), ?_, ?_⟩
  · simp only [Machine.cycle, Arithmetic.operation?_eq hw, hexecute]
    rfl
  · rw [Registers.values_setFlag, Registers.values_put, Arithmetic.toNat_byte,
      Arithmetic.toNat_raised]
    rfl

/-- A machine that adds the flag register to itself. -/
def Machine.doublingFlag : Machine :=
  { Machine.ofProgram [0x8F, 0xF4] (.cyclic []) with registers := Registers.zero.put Registers.flag 200 }

/-- The sum 400 exceeds a byte, and of result and flag the flag remains. -/
theorem arithmetic_puts_result_then_flag_of_flag :
    Machine.doublingFlag.cycle.1 = .ok ⟨0x200, 0x8FF4⟩ ∧
    Machine.doublingFlag.cycle.2.registers.values = Function.update (fun _ => 0) 0xF 1 := by
  have hw : Machine.doublingFlag.fetch = 0x8FF4 := by
    decide +kernel
  obtain ⟨registers, hcycle, hvalues⟩ :=
    arithmetic_puts_result_then_flag Machine.doublingFlag .add 0xF 0xF (by rw [hw]; decide)
  rw [hcycle, hw]
  refine ⟨rfl, ?_⟩
  show registers.values = _
  rw [hvalues, Function.update_idem]
  funext r
  revert r
  decide +kernel

end Chip8
