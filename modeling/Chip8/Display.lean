import Chip8.Display.Bitmap

/-!
# The display and its frames

A painter need not repaint a picture it has already shown. The display therefore remembers whether it
was cleared or drawn on since somebody last looked at it; looking takes a *frame*, a copy of the
picture together with that flag, and resets the flag. A drawing that changes no pixel sets the flag
all the same.
-/

namespace Chip8

/-- The picture, and whether it was touched since the last frame was taken. -/
structure Display where
  /-- The picture. -/
  bitmap : Bitmap
  /-- Whether the display was cleared or drawn on since the last frame. -/
  dirty : Bool
deriving DecidableEq

/-- A copy of the picture at one moment. -/
structure Frame where
  /-- The picture. -/
  bitmap : Bitmap
  /-- Whether the display was touched since the frame before. -/
  dirty : Bool
deriving DecidableEq

namespace Display

/-- A dark display that nobody has touched. -/
def blank : Display := ⟨.blank, false⟩

/-- Puts out all pixels. -/
def clear (_ : Display) : Display := ⟨.blank, true⟩

/-- Draws a sprite and tells whether a lit pixel was put out. -/
def draw (d : Display) (sprite : List UInt8) (x y : UInt8) : Bool × Display :=
  let (collision, drawn) := d.bitmap.draw sprite x y
  (collision, ⟨drawn, true⟩)

/-- Takes a frame and marks the display as seen. -/
def snapshot (d : Display) : Frame × Display :=
  (⟨d.bitmap, d.dirty⟩, { d with dirty := false })

end Display

namespace Frame

/-- How many pixels a frame has. -/
def size : Nat := screenWidth * screenHeight

/-- The pixel with the given number, counted along the rows from the upper left corner. There is none
from `Frame.size` on. -/
def pixelAt? (f : Frame) (index : Nat) : Option Bool :=
  if index < size then some (f.bitmap.pixel (index % screenWidth) (index / screenWidth)) else none

/-- The pixel in column `x` of row `y`. Only the resulting number is checked, so a column past the
right edge continues in the rows below. -/
def pixel? (f : Frame) (x y : UInt8) : Option Bool :=
  f.pixelAt? (y.toNat * screenWidth + x.toNat)

end Frame

end Chip8
