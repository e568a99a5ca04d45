import Chip8.Proofs.Drawing

/-!
# Drawing in any order

A drawing inverts the pixels that it covers, whatever else is on the display. So drawings commute, and
each undoes itself; from these two laws it follows that a list of drawings may be made in any order, and
is erased by making it again in any other order. A sprite that is drawn twice meets each of its visible
pixels lit exactly once, which is what its two collisions tell together.
-/

namespace Chip8

/-- A sprite and where it is drawn. -/
structure Drawing where
  /-- The rows of the sprite, a byte each. -/
  sprite : List UInt8
  x : UInt8
  y : UInt8
deriving DecidableEq, Repr

namespace Drawing

/-- The column of the upper left corner. -/
def left (d : Drawing) : Nat := d.x.toNat % screenWidth

/-- The row of the upper left corner. -/
def top (d : Drawing) : Nat := d.y.toNat % screenHeight

/-- The bit in a row and a column of the sprite is set, and falls on the display. -/
def Shows (d : Drawing) (row column : Nat) : Prop :=
  column < 8 ∧ (∃ bits, d.sprite[row]? = some bits ∧ bits.toNat.testBit (7 - column) = true) ∧
    d.left + column < screenWidth ∧ d.top + row < screenHeight

end Drawing

namespace Bitmap

/-- The picture after a drawing. -/
def drawn (b : Bitmap) (d : Drawing) : Bitmap := (b.draw d.sprite d.x d.y).2

/-- Whether a drawing puts out a lit pixel. -/
def collides (b : Bitmap) (d : Drawing) : Bool := (b.draw d.sprite d.x d.y).1

/-- The picture after several drawings. -/
def drawnAll (b : Bitmap) (ds : List Drawing) : Bitmap := ds.foldl drawn b

/-! ## Two drawings -/

theorem pixel_drawn (b : Bitmap) (d : Drawing) {X Y : Nat} (hX : X < screenWidth)
    (hY : Y < screenHeight) :
    (b.drawn d).pixel X Y = (b.pixel X Y ^^ spritePixel d.sprite d.left d.top X Y) :=
  b.pixel_drawRows hX hY

theorem drawn_comm (b : Bitmap) (d e : Drawing) : (b.drawn d).drawn e = (b.drawn e).drawn d := by
  apply ext_pixel
  intro X hX Y hY
  simp only [pixel_drawn _ _ hX hY]
  exact Bool.xor_right_comm _ _ _

theorem drawn_drawn (b : Bitmap) (d : Drawing) : (b.drawn d).drawn d = b := by
  apply ext_pixel
  intro X hX Y hY
  rw [pixel_drawn _ _ hX hY, pixel_drawn _ _ hX hY, Bool.xor_assoc, Bool.xor_self, Bool.xor_false]

/-! ## Lists of drawings -/

theorem drawnAll_perm (b : Bitmap) {ds es : List Drawing} (h : ds.Perm es) :
    b.drawnAll ds = b.drawnAll es := by
  apply h.foldl_eq'
  intro d _ e _ b
  exact b.drawn_comm d e

theorem drawnAll_drawnAll_reverse (b : Bitmap) (ds : List Drawing) :
    (b.drawnAll ds).drawnAll ds.reverse = b := by
  induction ds generalizing b with
  | nil => rfl
  | cons d ds ih =>
    calc (b.drawnAll (d :: ds)).drawnAll (d :: ds).reverse
        = (((b.drawn d).drawnAll ds).drawnAll ds.reverse).drawn d := by
          rw [List.reverse_cons, drawnAll, drawnAll, drawnAll, drawnAll, List.foldl_append]
          rfl
      _ = (b.drawn d).drawn d := by rw [ih]
      _ = b := b.drawn_drawn d

/-! ## Collisions -/

theorem spritePixel_eq_true_iff {sprite : List UInt8} {left top X Y : Nat} :
    spritePixel sprite left top X Y = true ↔ ∃ row column, X = left + column ∧ Y = top + row ∧
      column < 8 ∧ ∃ bits, sprite[row]? = some bits ∧ bits.toNat.testBit (7 - column) = true := by
  rw [spritePixel, Bool.and_eq_true, decide_eq_true_eq]
  constructor
  · rintro ⟨⟨hleft, hright, htop, hbottom⟩, hbit⟩
    have hrow : Y - top < sprite.length := by omega
    refine ⟨Y - top, X - left, by omega, by omega, by omega, sprite[Y - top], ?_, ?_⟩
    · exact List.getElem?_eq_getElem hrow
    · rwa [List.getD_eq_getElem?_getD, List.getElem?_eq_getElem hrow] at hbit
  · rintro ⟨row, column, rfl, rfl, hcolumn, bits, hbits, hbit⟩
    obtain ⟨hrow, -⟩ := List.getElem?_eq_some_iff.mp hbits
    refine ⟨by omega, ?_⟩
    rw [Nat.add_sub_cancel_left, Nat.add_sub_cancel_left, List.getD_eq_getElem?_getD, hbits]
    exact hbit

/-- The visible bits of a sprite are the pixels that it covers. -/
theorem exists_covered_iff (d : Drawing) (P : Nat → Nat → Prop) :
    (∃ X < screenWidth, ∃ Y < screenHeight,
        P X Y ∧ spritePixel d.sprite d.left d.top X Y = true) ↔
      ∃ row column, d.Shows row column ∧ P (d.left + column) (d.top + row) := by
  constructor
  · rintro ⟨X, hX, Y, hY, hP, hcovered⟩
    obtain ⟨row, column, rfl, rfl, hcolumn, hbit⟩ := spritePixel_eq_true_iff.mp hcovered
    exact ⟨row, column, ⟨hcolumn, hbit, hX, hY⟩, hP⟩
  · rintro ⟨row, column, ⟨hcolumn, hbit, hX, hY⟩, hP⟩
    refine ⟨_, hX, _, hY, hP, ?_⟩
    exact spritePixel_eq_true_iff.mpr ⟨row, column, rfl, rfl, hcolumn, hbit⟩

theorem collides_iff (b : Bitmap) (d : Drawing) : b.collides d = true ↔
    ∃ row column, d.Shows row column ∧ b.pixel (d.left + column) (d.top + row) = true := by
  rw [← exists_covered_iff d fun X Y => b.pixel X Y = true]
  exact b.collision_drawRows_iff_pixel

theorem pixel_drawn_of_shows (b : Bitmap) {d : Drawing} {row column : Nat}
    (h : d.Shows row column) : (b.drawn d).pixel (d.left + column) (d.top + row) =
      !b.pixel (d.left + column) (d.top + row) := by
  obtain ⟨hcolumn, hbit, hX, hY⟩ := h
  have hcovered : spritePixel d.sprite d.left d.top (d.left + column) (d.top + row) = true :=
    spritePixel_eq_true_iff.mpr ⟨row, column, rfl, rfl, hcolumn, hbit⟩
  rw [b.pixel_drawn d hX hY, hcovered, Bool.xor_true]

/-- A pixel that was dark when the sprite was drawn is lit when it is drawn again. -/
theorem collides_or_collides_iff (b : Bitmap) (d : Drawing) :
    b.collides d = true ∨ (b.drawn d).collides d = true ↔ ∃ row column, d.Shows row column := by
  rw [collides_iff, collides_iff]
  constructor
  · rintro (⟨row, column, hshows, -⟩ | ⟨row, column, hshows, -⟩) <;> exact ⟨row, column, hshows⟩
  · rintro ⟨row, column, hshows⟩
    by_cases hlit : b.pixel (d.left + column) (d.top + row) = true
    · exact Or.inl ⟨row, column, hshows, hlit⟩
    · refine Or.inr ⟨row, column, hshows, ?_⟩
      rw [b.pixel_drawn_of_shows hshows, Bool.not_eq_true']
      exact Bool.eq_false_iff.mpr hlit

theorem collides_eq_false_iff (b : Bitmap) (d : Drawing) : b.collides d = false ↔
    ∀ row column, d.Shows row column → b.pixel (d.left + column) (d.top + row) = false := by
  rw [← Bool.not_eq_true, collides_iff]
  constructor
  · intro hnone row column hshows
    exact Bool.eq_false_iff.mpr fun hlit => hnone ⟨row, column, hshows, hlit⟩
  · rintro hdark ⟨row, column, hshows, hlit⟩
    rw [hdark row column hshows] at hlit
    exact Bool.false_ne_true hlit

end Bitmap

/-! ## Main statement -/

/-- Drawings that are made in another order give the same picture, and made again in any order they
restore the picture that was there before. Of a drawing that is made twice in a row, one of the two
collides exactly if the sprite has a set bit that falls on the display, and the first does not exactly
if no such bit met a lit pixel. -/
theorem drawings_commute_and_erase (b : Bitmap) (ds es : List Drawing) (hperm : ds.Perm es) :
    b.drawnAll ds = b.drawnAll es ∧ (b.drawnAll ds).drawnAll es = b ∧
      ∀ d : Drawing,
        (b.collides d = true ∨ (b.drawn d).collides d = true ↔ ∃ row column, d.Shows row column) ∧
        (b.collides d = false ↔ ∀ row column, d.Shows row column →
          b.pixel (d.left + column) (d.top + row) = false) := by
  refine ⟨b.drawnAll_perm hperm, ?_, ?_⟩
  · have hreverse : es.Perm ds.reverse := hperm.symm.trans ds.reverse_perm.symm
    rw [Bitmap.drawnAll_perm _ hreverse, Bitmap.drawnAll_drawnAll_reverse]
  · intro d
    exact ⟨b.collides_or_collides_iff d, b.collides_eq_false_iff d⟩

/-- Three sprites that overlap, one of them across two bytes and one clipped at the corner. -/
theorem drawings_commute_and_erase_at_corner :
    let straddling : Drawing := ⟨[0xFF, 0x81], 52, 30⟩
    let clipped : Drawing := ⟨[0xF0, 0x0F, 0xFF], 58, 31⟩
    let wrapped : Drawing := ⟨[0xC0], 64 + 55, 32 + 30⟩
    let ds := [straddling, clipped, wrapped]
    let es := [wrapped, straddling, clipped]
    ds.Perm es ∧ Bitmap.blank.drawnAll ds = Bitmap.blank.drawnAll es ∧
      Bitmap.blank.drawnAll ds ≠ Bitmap.blank ∧
      (Bitmap.blank.drawnAll ds).drawnAll es = Bitmap.blank := by
  intro straddling clipped wrapped ds es
  have hperm : ds.Perm es := by decide
  obtain ⟨hsame, herased, -⟩ := drawings_commute_and_erase Bitmap.blank ds es hperm
  refine ⟨hperm, hsame, ?_, herased⟩
  decide +kernel

end Chip8
