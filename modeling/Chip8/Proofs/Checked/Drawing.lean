import Chip8.Display

/-!
# Drawing with every index checked

A display row is one vector of 64 pixels, and drawing on it needs no care. Here a sprite is drawn the
way a display of 256 bytes asks for: each sprite byte is shifted into the one or two bytes that it
falls on. Indices are compared with the number of bytes, shifts with the width of a byte, sums with
the range of the smallest machine word and differences with zero; if one of them is out of range there
is no result. Main statement: there always is one, and it is the picture drawn on the rows.
-/

namespace Chip8

/-! ## Arithmetic that can be out of range -/

namespace Checked

/-- A number, if it fits into sixteen bits. -/
def fit? (n : Nat) : Option Nat := if n < 65536 then some n else none

/-- A difference, if it is not negative. -/
def sub? (a b : Nat) : Option Nat := if b ≤ a then some (a - b) else none

/-- A byte shifted to the left, if the distance is less than its width. -/
def shiftLeft? (byte : UInt8) (distance : Nat) : Option UInt8 :=
  if distance < 8 then some ⟨byte.toBitVec <<< distance⟩ else none

/-- A byte shifted to the right, if the distance is less than its width. -/
def shiftRight? (byte : UInt8) (distance : Nat) : Option UInt8 :=
  if distance < 8 then some ⟨byte.toBitVec >>> distance⟩ else none

variable {n : Nat}

theorem fit?_eq_some (h : n < 65536) : fit? n = some n := if_pos h

theorem sub?_eq_some {a b : Nat} (h : b ≤ a) : sub? a b = some (a - b) := if_pos h

theorem shiftLeft?_eq_some (byte : UInt8) (h : n < 8) :
    shiftLeft? byte n = some ⟨byte.toBitVec <<< n⟩ := if_pos h

theorem shiftRight?_eq_some (byte : UInt8) (h : n < 8) :
    shiftRight? byte n = some ⟨byte.toBitVec >>> n⟩ := if_pos h

end Checked

open Checked

namespace Bitmap

/-! ## Rows as bytes -/

/-- A byte of pixels at a place of an otherwise dark row, place 0 being the leftmost one. -/
def byteRow (bits : UInt8) (place : Nat) : PixelRow :=
  bits.toBitVec.setWidth screenWidth <<< (56 - 8 * place)

theorem getLsbD_byteRow (bits : UInt8) (place : Nat) {i : Nat} (hi : i < screenWidth) :
    (byteRow bits place).getLsbD i =
      (decide (56 - 8 * place ≤ i) && bits.toBitVec.getLsbD (i - (56 - 8 * place))) := by
  have hwidth : i - (56 - 8 * place) < screenWidth := by omega
  rw [byteRow, BitVec.getLsbD_shiftLeft, BitVec.getLsbD_setWidth]
  simp only [hi, hwidth, decide_true, Bool.true_and]
  by_cases hle : 56 - 8 * place ≤ i
  · simp only [hle, Nat.not_lt.mpr hle, decide_true, decide_false, Bool.not_false]
  · simp only [hle, Nat.lt_of_not_le hle, decide_true, decide_false, Bool.not_true, Bool.false_and]

theorem getLsbD_spriteRow (bits : UInt8) (x i : Nat) :
    (spriteRow bits x).getLsbD i =
      (decide (56 ≤ x + i ∧ x + i < 64) && bits.toBitVec.getLsbD (x + i - 56)) := by
  rw [spriteRow, BitVec.getLsbD_ushiftRight, BitVec.getLsbD_shiftLeft, BitVec.getLsbD_setWidth]
  by_cases hlow : 56 ≤ x + i
  · by_cases hhigh : x + i < 64
    · have hwidth : x + i - 56 < screenWidth := by
        simp only [screenWidth]
        omega
      simp [hlow, hhigh, Nat.not_lt.mpr hlow, hwidth]
    · simp [hhigh]
  · simp [hlow, Nat.lt_of_not_le hlow]

/-- A sprite byte falls on one byte of the row or on two neighbours; the part that sticks out at the
right edge is lost. -/
theorem spriteRow_eq_byteRow (bits : UInt8) {x : Nat} (hx : x < 64) :
    spriteRow bits x = byteRow ⟨bits.toBitVec >>> (x % 8)⟩ (x / 8) |||
      if 0 < x % 8 ∧ x / 8 < 7 then byteRow ⟨bits.toBitVec <<< (8 - x % 8)⟩ (x / 8 + 1) else 0#_ := by
  apply BitVec.eq_of_getLsbD_eq
  intro i hi
  have hleft : (byteRow ⟨bits.toBitVec >>> (x % 8)⟩ (x / 8)).getLsbD i =
      (decide (56 - 8 * (x / 8) ≤ i) && bits.toBitVec.getLsbD (x + i - 56)) := by
    rw [getLsbD_byteRow _ _ hi]
    show (_ && (bits.toBitVec >>> (x % 8)).getLsbD _) = _
    rw [BitVec.getLsbD_ushiftRight]
    by_cases h : 56 - 8 * (x / 8) ≤ i
    · rw [show x % 8 + (i - (56 - 8 * (x / 8))) = x + i - 56 by omega]
    · simp only [h, decide_false, Bool.false_and]
  have hright : (if 0 < x % 8 ∧ x / 8 < 7 then
        byteRow ⟨bits.toBitVec <<< (8 - x % 8)⟩ (x / 8 + 1) else 0#_).getLsbD i =
      (decide (56 ≤ x + i ∧ i < 56 - 8 * (x / 8)) && bits.toBitVec.getLsbD (x + i - 56)) := by
    by_cases hexists : 0 < x % 8 ∧ x / 8 < 7
    · rw [if_pos hexists, getLsbD_byteRow _ _ hi]
      show (_ && (bits.toBitVec <<< (8 - x % 8)).getLsbD _) = _
      rw [BitVec.getLsbD_shiftLeft]
      have hrange : (decide (56 - 8 * (x / 8 + 1) ≤ i) && (decide (i - (56 - 8 * (x / 8 + 1)) < 8) &&
          !decide (i - (56 - 8 * (x / 8 + 1)) < 8 - x % 8))) =
          decide (56 ≤ x + i ∧ i < 56 - 8 * (x / 8)) := by
        rw [Bool.eq_iff_iff]
        simp only [Bool.and_eq_true, Bool.not_eq_true', decide_eq_true_eq, decide_eq_false_iff_not]
        omega
      rw [← Bool.and_assoc, hrange]
      by_cases h : 56 ≤ x + i ∧ i < 56 - 8 * (x / 8)
      · rw [show i - (56 - 8 * (x / 8 + 1)) - (8 - x % 8) = x + i - 56 by omega]
      · simp only [h, decide_false, Bool.false_and]
    · have h : ¬(56 ≤ x + i ∧ i < 56 - 8 * (x / 8)) := by omega
      rw [if_neg hexists]
      simp [h]
  rw [getLsbD_spriteRow, BitVec.getLsbD_or, hleft, hright, ← Bool.and_or_distrib_right]
  by_cases hout : x + i < 64
  · congr 1
    rw [← Bool.decide_or]
    exact decide_eq_decide.mpr (by omega)
  · rw [BitVec.getLsbD_of_ge _ _ (by omega)]
    simp only [Bool.and_false]

theorem byteRow_and_byteRow_succ (bits bits' : UInt8) {place : Nat} (h : place < 7) :
    byteRow bits place &&& byteRow bits' (place + 1) = 0 := by
  apply BitVec.eq_of_getLsbD_eq
  intro i hi
  rw [BitVec.getLsbD_and, getLsbD_byteRow _ _ hi, getLsbD_byteRow _ _ hi]
  by_cases hle : 56 - 8 * place ≤ i
  · rw [BitVec.getLsbD_of_ge bits'.toBitVec _ (by omega)]
    simp
  · simp [hle]

/-- The byte of a row at a place. -/
def rowByte (row : PixelRow) (place : Nat) : UInt8 := ⟨row.extractLsb' (56 - 8 * place) 8⟩

/-- A byte has a pixel in common with a row at the place where it lies. -/
theorem rowByte_and_ne_zero (row : PixelRow) (bits : UInt8) {place : Nat} (h : place < 8) :
    (rowByte row place &&& bits != 0) = (row &&& byteRow bits place != 0) := by
  have hzero : rowByte row place &&& bits = 0 ↔ row &&& byteRow bits place = 0 := by
    constructor
    · intro hbyte
      have hvec : row.extractLsb' (56 - 8 * place) 8 &&& bits.toBitVec = 0 :=
        congrArg UInt8.toBitVec hbyte
      apply BitVec.eq_of_getLsbD_eq
      intro i hi
      rw [BitVec.getLsbD_and, getLsbD_byteRow _ _ hi]
      by_cases hle : 56 - 8 * place ≤ i
      · by_cases hlt : i - (56 - 8 * place) < 8
        · have hbit := congrArg (·.getLsbD (i - (56 - 8 * place))) hvec
          simp only [BitVec.getLsbD_and, BitVec.getLsbD_extractLsb', hlt, decide_true,
            Bool.true_and, Nat.add_sub_cancel' hle] at hbit
          simpa [hle] using hbit
        · rw [BitVec.getLsbD_of_ge bits.toBitVec _ (by omega)]
          simp
      · simp [hle]
    · intro hrow
      apply UInt8.toBitVec_inj.mp
      show row.extractLsb' (56 - 8 * place) 8 &&& bits.toBitVec = 0
      apply BitVec.eq_of_getLsbD_eq
      intro k hk
      have hi : 56 - 8 * place + k < screenWidth := by
        simp only [screenWidth]
        omega
      have hbit := congrArg (·.getLsbD (56 - 8 * place + k)) hrow
      simp only [BitVec.getLsbD_and, getLsbD_byteRow _ _ hi, Nat.le_add_right, decide_true,
        Bool.true_and, Nat.add_sub_cancel_left] at hbit
      simpa [BitVec.getLsbD_and, BitVec.getLsbD_extractLsb', hk] using hbit
  rw [Bool.eq_iff_iff, bne_iff_ne, bne_iff_ne, ne_eq, ne_eq, hzero]

/-! ## Drawing byte by byte -/

/-- How many bytes a picture has. -/
abbrev byteCount : Nat := 8 * screenHeight

/-- Inverts pixels of the byte with the given number, if there is one, and tells whether a lit pixel
was put out. -/
def flip? (b : Bitmap) (index : Nat) (bits : UInt8) : Option (Bool × Bitmap) :=
  if h : index < byteCount then
    have hline : index / 8 < screenHeight := Nat.div_lt_of_lt_mul h
    let row := b.rows[index / 8]
    some (rowByte row (index % 8) &&& bits != 0,
      ⟨b.rows.set (index / 8) (row ^^^ byteRow bits (index % 8))⟩)
  else none

/-- Draws one sprite byte, from column `x` of a line on. -/
def drawByte? (b : Bitmap) (bits : UInt8) (x line : Nat) : Option (Bool × Bitmap) := do
  let left ← fit? (x / 8 + 8 * line)
  let right ← fit? (left + 1)
  let (hit, b) ← b.flip? left (← shiftRight? bits (x % 8))
  if 0 < x % 8 ∧ right % 8 ≠ 0 then
    let distance ← sub? 8 (x % 8)
    let (hit', b) ← b.flip? right (← shiftLeft? bits distance)
    some (hit || hit', b)
  else some (hit, b)

/-- Draws sprite bytes downwards from a line on, and stops at the bottom edge. -/
def drawBytes? (b : Bitmap) (x line : Nat) : (sprite : List UInt8) → Option (Bool × Bitmap)
  | [] => some (false, b)
  | bits :: rest =>
    if screenHeight ≤ line then some (false, b)
    else do
      let (hit, b) ← b.drawByte? bits x line
      let next ← fit? (line + 1)
      let (later, b) ← b.drawBytes? x next rest
      some (hit || later, b)

/-- Draws a sprite with its upper left corner at `(x, y)`, which wraps around both edges. -/
def drawChecked? (b : Bitmap) (sprite : List UInt8) (x y : UInt8) : Option (Bool × Bitmap) :=
  b.drawBytes? (x.toNat % screenWidth) (y.toNat % screenHeight) sprite

theorem flip?_eq_some (b : Bitmap) (bits : UInt8) {line place : Nat} (hline : line < screenHeight)
    (hplace : place < 8) :
    b.flip? (place + 8 * line) bits =
      some (b.rows[line] &&& byteRow bits place != 0,
        ⟨b.rows.set line (b.rows[line] ^^^ byteRow bits place)⟩) := by
  have hindex : place + 8 * line < byteCount := by
    simp only [byteCount, screenHeight] at hline ⊢
    omega
  have hdiv : (place + 8 * line) / 8 = line := by omega
  have hmod : (place + 8 * line) % 8 = place := by omega
  rw [flip?, dif_pos hindex]
  simp only [hdiv, hmod, rowByte_and_ne_zero _ _ hplace]

/-- Two masks without a common pixel may be drawn one after the other. -/
theorem xor_xor_of_disjoint (row : PixelRow) {mask mask' : PixelRow} (h : mask &&& mask' = 0) :
    row ^^^ mask ^^^ mask' = row ^^^ (mask ||| mask') ∧ (row ^^^ mask) &&& mask' = row &&& mask' := by
  have hbit : ∀ i, (mask.getLsbD i && mask'.getLsbD i) = false := by
    intro i
    rw [← BitVec.getLsbD_and, h]
    exact BitVec.getLsbD_zero
  constructor
  · apply BitVec.eq_of_getLsbD_eq
    intro i _
    have hi := hbit i
    revert hi
    simp only [BitVec.getLsbD_xor, BitVec.getLsbD_or]
    cases row.getLsbD i <;> cases mask.getLsbD i <;> cases mask'.getLsbD i <;> decide
  · apply BitVec.eq_of_getLsbD_eq
    intro i _
    have hi := hbit i
    revert hi
    simp only [BitVec.getLsbD_xor, BitVec.getLsbD_and]
    cases row.getLsbD i <;> cases mask.getLsbD i <;> cases mask'.getLsbD i <;> decide

theorem and_or_ne_zero (row mask mask' : PixelRow) :
    (row &&& (mask ||| mask') != 0) = (row &&& mask != 0 || row &&& mask' != 0) := by
  have hzero : row &&& (mask ||| mask') = 0 ↔ row &&& mask = 0 ∧ row &&& mask' = 0 := by
    rw [BitVec.and_or_distrib_left]
    exact BitVec.or_eq_zero_iff
  rw [Bool.eq_iff_iff, Bool.or_eq_true, bne_iff_ne, bne_iff_ne, bne_iff_ne, ne_eq, hzero]
  exact Decidable.not_and_iff_not_or_not

theorem drawByte?_eq_some (b : Bitmap) (bits : UInt8) {x line : Nat} (hx : x < screenWidth)
    (hline : line < screenHeight) :
    b.drawByte? bits x line =
      some (b.rows[line] &&& spriteRow bits x != 0,
        ⟨b.rows.set line (b.rows[line] ^^^ spriteRow bits x)⟩) := by
  simp only [screenWidth] at hx
  have hlast : line < 32 := hline
  have hleft : x / 8 + 8 * line < 65536 := by omega
  have hright : x / 8 + 8 * line + 1 < 65536 := by omega
  simp only [drawByte?, fit?_eq_some hleft, fit?_eq_some hright,
    shiftRight?_eq_some bits (Nat.mod_lt x (by decide : 0 < 8)), Option.bind_eq_bind,
    Option.bind_some, flip?_eq_some b _ hline (by omega : x / 8 < 8)]
  rw [spriteRow_eq_byteRow bits hx]
  by_cases hboth : 0 < x % 8 ∧ x / 8 < 7
  · have hinside : 0 < x % 8 ∧ (x / 8 + 8 * line + 1) % 8 ≠ 0 := by omega
    have hindex : x / 8 + 8 * line + 1 = x / 8 + 1 + 8 * line := by omega
    obtain ⟨hxor, hand⟩ := xor_xor_of_disjoint b.rows[line]
      (byteRow_and_byteRow_succ ⟨bits.toBitVec >>> (x % 8)⟩ ⟨bits.toBitVec <<< (8 - x % 8)⟩ hboth.2)
    rw [if_pos hinside, if_pos hboth, sub?_eq_some (by omega), hindex]
    simp only [Option.bind_some, shiftLeft?_eq_some bits (by omega : 8 - x % 8 < 8),
      flip?_eq_some _ _ hline (by omega : x / 8 + 1 < 8), Vector.getElem_set_self, Vector.set_set,
      hand, hxor, and_or_ne_zero]
  · have hinside : ¬(0 < x % 8 ∧ (x / 8 + 8 * line + 1) % 8 ≠ 0) := by omega
    rw [if_neg hinside, if_neg hboth, BitVec.or_zero]

theorem drawBytes?_eq_some (b : Bitmap) {x : Nat} (hx : x < screenWidth) (line : Nat)
    (sprite : List UInt8) : b.drawBytes? x line sprite = some (b.drawRows x line sprite) := by
  induction sprite generalizing b line with
  | nil => rfl
  | cons bits rest ih =>
    rw [drawBytes?, drawRows]
    by_cases hline : line < screenHeight
    · have hnext : line + 1 < 65536 := by
        simp only [screenHeight] at hline
        omega
      simp only [if_neg (Nat.not_le.mpr hline), dif_pos hline, drawByte?_eq_some b bits hx hline,
        fit?_eq_some hnext, ih, Option.bind_eq_bind, Option.bind_some]
    · rw [if_pos (Nat.not_lt.mp hline), dif_neg hline]

/-- Drawing byte by byte never leaves the picture, and draws what drawing on rows does. -/
theorem drawChecked?_eq_some (b : Bitmap) (sprite : List UInt8) (x y : UInt8) :
    b.drawChecked? sprite x y = some (b.draw sprite x y) :=
  b.drawBytes?_eq_some (Nat.mod_lt _ (by decide)) _ _

end Bitmap

end Chip8
