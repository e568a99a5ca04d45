/-!
# The display bitmap

The display has 32 rows of 64 pixels. A row is one 64-bit vector whose most significant bit is the
leftmost pixel, so a sprite row is a shifted byte, drawing it is an exclusive or, and a collision is
a common set bit. Shifting past the right edge drops bits, which is exactly how sprites are clipped
there; rows below the bottom edge are not drawn at all.
-/

namespace Chip8

/-- Pixels in a row. -/
abbrev screenWidth : Nat := 64

/-- Rows of the display. -/
abbrev screenHeight : Nat := 32

/-- One row of pixels; the most significant bit is the leftmost pixel. -/
abbrev PixelRow := BitVec screenWidth

/-- Pixels that are lit or dark. -/
structure Bitmap where
  /-- The rows, top to bottom. -/
  rows : Vector PixelRow screenHeight
deriving DecidableEq

namespace Bitmap

/-- All pixels dark. -/
def blank : Bitmap := ⟨Vector.replicate screenHeight 0⟩

/-- Row `y`; rows outside the display are dark. -/
def row (b : Bitmap) (y : Nat) : PixelRow := b.rows[y]?.getD 0

/-- Whether the pixel in column `x` of row `y` is lit; pixels outside the display are dark. -/
def pixel (b : Bitmap) (x y : Nat) : Bool := (b.row y).getMsbD x

/-- The eight pixels of a sprite byte, starting in column `x`. -/
def spriteRow (bits : UInt8) (x : Nat) : PixelRow :=
  (bits.toBitVec.setWidth screenWidth <<< 56) >>> x

/-- Draws sprite rows downwards from row `y`, in columns from `x` on. Returns whether a lit pixel was
put out, and the new bitmap. Stops at the bottom edge. -/
def drawRows (b : Bitmap) (x y : Nat) : (sprite : List UInt8) → Bool × Bitmap
  | [] => (false, b)
  | bits :: rest =>
    if h : y < screenHeight then
      let old := b.rows[y]
      let mask := spriteRow bits x
      let (collision, drawn) := drawRows ⟨b.rows.set y (old ^^^ mask)⟩ x (y + 1) rest
      (old &&& mask != 0 || collision, drawn)
    else
      (false, b)

/-- Draws a sprite, one byte a row, with its upper left corner at `(x, y)`. The corner wraps around
both edges; what sticks out at the right or at the bottom is clipped. -/
def draw (b : Bitmap) (sprite : List UInt8) (x y : UInt8) : Bool × Bitmap :=
  b.drawRows (x.toNat % screenWidth) (y.toNat % screenHeight) sprite

/-- The eight bytes of a row, leftmost first. -/
def rowBytes (row : PixelRow) : List UInt8 :=
  (List.range 8).map fun k => ⟨row.extractLsb' (56 - 8 * k) 8⟩

/-- The whole bitmap as 256 bytes, row after row; bit 7 of a byte is its leftmost pixel. -/
def bytes (b : Bitmap) : List UInt8 :=
  b.rows.toList.flatMap rowBytes

end Bitmap

end Chip8
