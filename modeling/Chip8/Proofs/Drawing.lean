import Chip8.Proofs.Checked.Drawing

/-!
# Drawing, pixel by pixel

A sprite inverts the pixels that it covers. Rows are drawn as a whole, so the statement is first
proved for rows, along the sprite, where all that a draw does to a row is an exclusive or with one
mask. Looking at single bits of the masks then says what happens to a pixel: what sticks out at the
right edge or at the bottom meets no pixel at all, in this row or in another one.

The picture leaves the program as bytes. The last part says where in them a pixel is found.
-/

namespace Chip8

/-- Whether a sprite with its upper left corner at `(left, top)` covers the pixel in column `X` of row
`Y`. -/
def spritePixel (sprite : List UInt8) (left top X Y : Nat) : Bool :=
  decide (left ≤ X ∧ X < left + 8 ∧ top ≤ Y ∧ Y < top + sprite.length) &&
    (sprite.getD (Y - top) 0).toNat.testBit (7 - (X - left))

namespace Bitmap

/-! ## Rows -/

/-- What a sprite does to a row of pixels. -/
def spriteMask (sprite : List UInt8) (left top line : Nat) : PixelRow :=
  if top ≤ line ∧ line < top + sprite.length then spriteRow (sprite.getD (line - top) 0) left else 0

variable {sprite : List UInt8} {left top line X Y : Nat}

theorem spriteMask_nil : spriteMask [] left top line = 0#_ := by
  have h : ¬(top ≤ line ∧ line < top + ([] : List UInt8).length) := by
    simp only [List.length_nil]
    omega
  rw [spriteMask, if_neg h]
  rfl

theorem spriteMask_cons_self (bits : UInt8) (rest : List UInt8) :
    spriteMask (bits :: rest) left top top = spriteRow bits left := by
  have h : top ≤ top ∧ top < top + (bits :: rest).length := by
    simp only [List.length_cons]
    omega
  rw [spriteMask, if_pos h, Nat.sub_self, List.getD_cons_zero]

theorem spriteMask_cons_of_ne (bits : UInt8) (rest : List UInt8) (h : line ≠ top) :
    spriteMask (bits :: rest) left top line = spriteMask rest left (top + 1) line := by
  unfold spriteMask
  by_cases hin : top + 1 ≤ line ∧ line < top + 1 + rest.length
  · have hcons : top ≤ line ∧ line < top + (bits :: rest).length := by
      simp only [List.length_cons]
      omega
    have hindex : line - top = line - (top + 1) + 1 := by omega
    rw [if_pos hin, if_pos hcons, hindex, List.getD_cons_succ]
  · have hcons : ¬(top ≤ line ∧ line < top + (bits :: rest).length) := by
      simp only [List.length_cons]
      omega
    rw [if_neg hin, if_neg hcons]

theorem spriteMask_of_lt (h : line < top) : spriteMask sprite left top line = 0#_ := by
  have hout : ¬(top ≤ line ∧ line < top + sprite.length) := by omega
  rw [spriteMask, if_neg hout]
  rfl

theorem row_set_self (b : Bitmap) (r : PixelRow) (h : line < screenHeight) :
    row ⟨b.rows.set line r⟩ line = r := by
  show (b.rows.set line r)[line]?.getD 0 = r
  rw [Vector.getElem?_set_self h, Option.getD_some]

theorem row_set_of_ne (b : Bitmap) (r : PixelRow) (h : line < screenHeight) {i : Nat}
    (hi : i ≠ line) : row ⟨b.rows.set line r⟩ i = b.row i := by
  show (b.rows.set line r)[i]?.getD 0 = b.rows[i]?.getD 0
  rw [Vector.getElem?_set_ne h (Ne.symm hi)]

theorem getElem_rows (b : Bitmap) (h : line < screenHeight) : b.rows[line] = b.row line := by
  rw [row, Vector.getElem?_eq_getElem h, Option.getD_some]

/-- Drawing inverts in each row the pixels of the row's mask. -/
theorem row_drawRows (b : Bitmap) (h : line < screenHeight) :
    (b.drawRows left top sprite).2.row line = b.row line ^^^ spriteMask sprite left top line := by
  induction sprite generalizing b top with
  | nil => rw [spriteMask_nil, BitVec.xor_zero, drawRows]
  | cons bits rest ih =>
    rw [drawRows]
    by_cases htop : top < screenHeight
    · rw [dif_pos htop]
      show (drawRows _ left (top + 1) rest).2.row line = _
      rw [ih]
      by_cases hline : line = top
      · subst hline
        rw [row_set_self _ _ htop, spriteMask_of_lt (Nat.lt_succ_self line), BitVec.xor_zero,
          spriteMask_cons_self, getElem_rows _ htop]
      · rw [row_set_of_ne _ _ htop hline, spriteMask_cons_of_ne _ _ hline]
    · rw [dif_neg htop, spriteMask_of_lt (by omega), BitVec.xor_zero]

/-- A lit pixel is put out if and only if the mask of some row meets the row. A row is drawn on once,
so it still is as it was when its turn comes. -/
theorem collision_drawRows (b : Bitmap) :
    (b.drawRows left top sprite).1 = true ↔
      ∃ line < screenHeight, b.row line &&& spriteMask sprite left top line ≠ 0#_ := by
  induction sprite generalizing b top with
  | nil =>
    have hnone : ¬∃ line < screenHeight, b.row line &&& spriteMask [] left top line ≠ 0#_ := by
      rintro ⟨line, -, hmeets⟩
      rw [spriteMask_nil, BitVec.and_zero] at hmeets
      exact hmeets rfl
    exact iff_of_false (by simp [drawRows]) hnone
  | cons bits rest ih =>
    rw [drawRows]
    by_cases htop : top < screenHeight
    · rw [dif_pos htop]
      show (b.rows[top] &&& spriteRow bits left != 0 || (drawRows _ left (top + 1) rest).1) = true ↔ _
      rw [Bool.or_eq_true, bne_iff_ne, ih, getElem_rows b htop]
      constructor
      · rintro (hhere | ⟨line, hline, hmeets⟩)
        · refine ⟨top, htop, ?_⟩
          rw [spriteMask_cons_self]
          exact hhere
        · have hne : line ≠ top := by
            rintro rfl
            rw [spriteMask_of_lt (Nat.lt_succ_self line), BitVec.and_zero] at hmeets
            exact hmeets rfl
          refine ⟨line, hline, ?_⟩
          rw [row_set_of_ne _ _ htop hne] at hmeets
          rwa [spriteMask_cons_of_ne _ _ hne]
      · rintro ⟨line, hline, hmeets⟩
        by_cases hne : line = top
        · subst hne
          rw [spriteMask_cons_self] at hmeets
          exact .inl hmeets
        · rw [spriteMask_cons_of_ne _ _ hne] at hmeets
          refine .inr ⟨line, hline, ?_⟩
          rwa [row_set_of_ne _ _ htop hne]
    · rw [dif_neg htop]
      refine iff_of_false Bool.false_ne_true ?_
      rintro ⟨line, hline, hmeets⟩
      rw [spriteMask_of_lt (by omega), BitVec.and_zero] at hmeets
      exact hmeets rfl

/-! ## Pixels -/

theorem getMsbD_spriteRow (bits : UInt8) (hX : X < screenWidth) :
    (spriteRow bits left).getMsbD X =
      (decide (left ≤ X ∧ X < left + 8) && bits.toNat.testBit (7 - (X - left))) := by
  simp only [screenWidth] at hX
  have hcovers : (56 ≤ left + (64 - 1 - X) ∧ left + (64 - 1 - X) < 64) ↔
      (left ≤ X ∧ X < left + 8) := by omega
  rw [BitVec.getMsbD_eq_getLsbD, getLsbD_spriteRow, decide_eq_decide.mpr hcovers]
  simp only [hX, decide_true, Bool.true_and]
  by_cases h : left ≤ X ∧ X < left + 8
  · rw [show left + (64 - 1 - X) - 56 = 7 - (X - left) by omega]
    rfl
  · simp only [h, decide_false, Bool.false_and]

theorem getMsbD_spriteMask (hX : X < screenWidth) :
    (spriteMask sprite left top Y).getMsbD X = spritePixel sprite left top X Y := by
  unfold spriteMask spritePixel
  by_cases h : top ≤ Y ∧ Y < top + sprite.length
  · rw [if_pos h, getMsbD_spriteRow _ hX]
    simp only [h, and_true]
  · rw [if_neg h]
    simp only [h, and_false, decide_false, Bool.false_and]
    exact BitVec.getMsbD_zero

theorem exists_getMsbD_of_ne_zero {r : PixelRow} (h : r ≠ 0#_) :
    ∃ X < screenWidth, r.getMsbD X = true := by
  by_cases hlit : ∃ X < screenWidth, r.getMsbD X = true
  · exact hlit
  · refine absurd (BitVec.eq_of_getMsbD_eq ?_) h
    intro X hX
    rw [BitVec.getMsbD_zero]
    exact Bool.eq_false_iff.mpr fun hbit => hlit ⟨X, hX, hbit⟩

/-- A picture is what its pixels are. -/
theorem ext_pixel {b b' : Bitmap}
    (h : ∀ X < screenWidth, ∀ Y < screenHeight, b.pixel X Y = b'.pixel X Y) :
    b = b' := by
  have hrows : b.rows = b'.rows := by
    apply Vector.ext
    intro Y hY
    rw [getElem_rows b hY, getElem_rows b' hY]
    apply BitVec.eq_of_getMsbD_eq
    intro X hX
    exact h X hX Y hY
  exact congrArg Bitmap.mk hrows

theorem pixel_drawRows (b : Bitmap) (hX : X < screenWidth) (hY : Y < screenHeight) :
    (b.drawRows left top sprite).2.pixel X Y =
      (b.pixel X Y ^^ spritePixel sprite left top X Y) := by
  rw [pixel, row_drawRows b hY, BitVec.getMsbD_xor, getMsbD_spriteMask hX]
  rfl

theorem collision_drawRows_iff_pixel (b : Bitmap) :
    (b.drawRows left top sprite).1 = true ↔ ∃ X < screenWidth, ∃ Y < screenHeight,
      b.pixel X Y = true ∧ spritePixel sprite left top X Y = true := by
  rw [collision_drawRows]
  constructor
  · rintro ⟨Y, hY, hmeets⟩
    obtain ⟨X, hX, hlit⟩ := exists_getMsbD_of_ne_zero hmeets
    rw [BitVec.getMsbD_and, getMsbD_spriteMask hX, Bool.and_eq_true] at hlit
    exact ⟨X, hX, Y, hY, hlit⟩
  · rintro ⟨X, hX, Y, hY, hlit, hcovered⟩
    refine ⟨Y, hY, ?_⟩
    intro hzero
    have hbit : (b.row Y &&& spriteMask sprite left top Y).getMsbD X = true := by
      rw [BitVec.getMsbD_and, getMsbD_spriteMask hX, Bool.and_eq_true]
      exact ⟨hlit, hcovered⟩
    rw [hzero, BitVec.getMsbD_zero] at hbit
    exact Bool.false_ne_true hbit

/-! ## Bytes -/

theorem length_rowBytes (r : PixelRow) : (rowBytes r).length = 8 := by
  rw [rowBytes, List.length_map, List.length_range]

theorem getElem?_rowBytes (r : PixelRow) {place : Nat} (h : place < 8) :
    (rowBytes r)[place]? = some (rowByte r place) := by
  rw [rowBytes, List.getElem?_map, List.getElem?_range h]
  rfl

theorem length_flatMap_rowBytes (rows : List PixelRow) :
    (rows.flatMap rowBytes).length = 8 * rows.length := by
  induction rows with
  | nil => rfl
  | cons r rest ih =>
    rw [List.flatMap_cons, List.length_append, length_rowBytes, ih, List.length_cons]
    omega

/-- In blocks of one length that stand one after another, an element is found by its block and its place
there. -/
theorem getElem?_flatMap_of_length {α β : Type} {f : α → List β} {size : Nat} (xs : List α)
    (hsize : ∀ x ∈ xs, (f x).length = size) {place : Nat} (h : place < size) (block : Nat) :
    (xs.flatMap f)[size * block + place]? = xs[block]?.bind fun x => (f x)[place]? := by
  induction xs generalizing block with
  | nil => rfl
  | cons x xs ih =>
    obtain ⟨hx, hxs⟩ := List.forall_mem_cons.mp hsize
    rw [List.flatMap_cons]
    cases block with
    | zero =>
      rw [Nat.mul_zero, Nat.zero_add, List.getElem?_append_left (by rwa [hx])]
      rfl
    | succ block =>
      have hindex : size * (block + 1) + place = (f x).length + (size * block + place) := by
        rw [hx, Nat.mul_succ]
        omega
      rw [hindex, List.getElem?_append_right (Nat.le_add_right _ _), Nat.add_sub_cancel_left, ih hxs,
        List.getElem?_cons_succ]

theorem getElem?_flatMap_rowBytes (rows : List PixelRow) {place : Nat} (h : place < 8) (line : Nat) :
    (rows.flatMap rowBytes)[8 * line + place]? = rows[line]?.map (rowByte · place) := by
  rw [getElem?_flatMap_of_length rows (fun r _ => length_rowBytes r) h]
  cases rows[line]? with
  | none => rfl
  | some r => exact getElem?_rowBytes r h

theorem length_bytes (b : Bitmap) : b.bytes.length = byteCount := by
  rw [bytes, length_flatMap_rowBytes, Vector.length_toList]

theorem testBit_rowByte (r : PixelRow) (hX : X < screenWidth) :
    (rowByte r (X / 8)).toNat.testBit (7 - X % 8) = r.getMsbD X := by
  simp only [screenWidth] at hX
  show (r.extractLsb' (56 - 8 * (X / 8)) 8).getLsbD (7 - X % 8) = r.getMsbD X
  have hlow : 7 - X % 8 < 8 := by omega
  have hindex : 56 - 8 * (X / 8) + (7 - X % 8) = 64 - 1 - X := by omega
  rw [BitVec.getLsbD_extractLsb', BitVec.getMsbD_eq_getLsbD, hindex]
  simp only [hlow, hX]

/-- A pixel is a bit of the bytes, rows of eight bytes one after another and the leftmost pixel of a
byte its highest bit. -/
theorem pixel_eq_testBit_bytes (b : Bitmap) (hX : X < screenWidth) (hY : Y < screenHeight) :
    ∃ byte, b.bytes[8 * Y + X / 8]? = some byte ∧ b.pixel X Y = byte.toNat.testBit (7 - X % 8) := by
  simp only [screenWidth] at hX
  refine ⟨rowByte (b.row Y) (X / 8), ?_, (testBit_rowByte _ hX).symm⟩
  have hrow : b.rows.toList[Y]? = some (b.row Y) := by
    rw [← getElem_rows b hY, Vector.getElem?_toList, Vector.getElem?_eq_getElem hY]
  rw [bytes, getElem?_flatMap_rowBytes _ (by omega : X / 8 < 8), hrow]
  rfl

theorem bytes_inj {b b' : Bitmap} : b.bytes = b'.bytes ↔ b = b' := by
  constructor
  · intro hbytes
    apply ext_pixel
    intro X hX Y hY
    obtain ⟨byte, hbyte, hpixel⟩ := b.pixel_eq_testBit_bytes hX hY
    obtain ⟨byte', hbyte', hpixel'⟩ := b'.pixel_eq_testBit_bytes hX hY
    rw [hbytes, hbyte', Option.some_inj] at hbyte
    rw [hpixel, hpixel', hbyte]
  · intro h
    rw [h]

end Bitmap

/-- The number of a pixel determines its column and its row. -/
theorem Frame.pixel?_eq_pixel (f : Frame) {x y : UInt8} (hx : x.toNat < screenWidth)
    (hy : y.toNat < screenHeight) : f.pixel? x y = some (f.bitmap.pixel x.toNat y.toNat) := by
  simp only [screenWidth, screenHeight] at hx hy
  have hsize : y.toNat * 64 + x.toNat < Frame.size := by
    simp only [Frame.size, screenWidth, screenHeight]
    omega
  have hcolumn : (y.toNat * 64 + x.toNat) % 64 = x.toNat := by omega
  have hrow : (y.toNat * 64 + x.toNat) / 64 = y.toNat := by omega
  rw [pixel?, pixelAt?, if_pos hsize, hcolumn, hrow]

/-- Drawing a sprite inverts the pixels that it covers and no others, and tells whether one of them
was lit. It leaves the display to be painted again, and reaches for no byte outside of the picture.
The bytes of a picture, and its frames, show the same pixels. -/
theorem draw_inverts_covered_pixels (d : Display) (sprite : List UInt8) (x y : UInt8) :
    (∀ X < screenWidth, ∀ Y < screenHeight,
        (d.draw sprite x y).2.bitmap.pixel X Y =
          (d.bitmap.pixel X Y ^^
            spritePixel sprite (x.toNat % screenWidth) (y.toNat % screenHeight) X Y)) ∧
      ((d.draw sprite x y).1 = true ↔ ∃ X < screenWidth, ∃ Y < screenHeight,
        d.bitmap.pixel X Y = true ∧
          spritePixel sprite (x.toNat % screenWidth) (y.toNat % screenHeight) X Y = true) ∧
      (d.draw sprite x y).2.dirty = true ∧
      d.bitmap.drawChecked? sprite x y =
        some ((d.draw sprite x y).1, (d.draw sprite x y).2.bitmap) ∧
      ∀ b : Bitmap, b.bytes.length = 256 ∧ ∀ X Y : UInt8,
        X.toNat < screenWidth → Y.toNat < screenHeight →
        (∃ byte, b.bytes[8 * Y.toNat + X.toNat / 8]? = some byte ∧
          b.pixel X.toNat Y.toNat = byte.toNat.testBit (7 - X.toNat % 8)) ∧
        ∀ dirty, Frame.pixel? ⟨b, dirty⟩ X Y = some (b.pixel X.toNat Y.toNat) := by
  refine ⟨?_, ?_, rfl, ?_, ?_⟩
  · intro X hX Y hY
    exact d.bitmap.pixel_drawRows hX hY
  · exact d.bitmap.collision_drawRows_iff_pixel
  · exact d.bitmap.drawChecked?_eq_some sprite x y
  · intro b
    refine ⟨b.length_bytes, ?_⟩
    intro X Y hX hY
    refine ⟨b.pixel_eq_testBit_bytes hX hY, ?_⟩
    intro dirty
    exact Frame.pixel?_eq_pixel _ hX hY

/-- A sprite in the lower right corner: one pixel of it is left. -/
example : (Bitmap.blank.draw [0xFF, 0xFF] 63 31).2.bytes = List.replicate 255 0 ++ [0x01] := by
  decide +kernel

end Chip8
