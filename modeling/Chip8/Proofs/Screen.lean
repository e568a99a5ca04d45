import Chip8.Display.Screen
import Chip8.Proofs.Drawing
import Chip8.Proofs.Text.Bytes
import Mathlib.Algebra.BigOperators.Ring.List
import Mathlib.Algebra.Ring.Nat

/-!
# A painted screen shows the frame

A frame is painted as lines of characters, all of one length, so that a pixel is found at a fixed
place among the characters; the bytes of a picture can be read off what a terminal was sent. The number
of bytes is not fixed, because a block takes two bytes more than a space.

A picture may be sent in pieces. It makes no difference to a terminal how it is cut, and one that runs
full has received exactly as much as it takes.
-/

namespace Chip8

open Text

/-! ## Lit pixels -/

/-- How many pixels are lit. -/
def Bitmap.litCount (b : Bitmap) : Nat :=
  ((List.range screenHeight).map fun Y => (List.range screenWidth).countP fun X => b.pixel X Y).sum

namespace Frame

theorem length_utf8_glyphs (lit : Nat → Bool) (columns : List Nat) :
    (utf8 (columns.map fun X => glyph (lit X))).length = columns.length + 2 * columns.countP lit := by
  induction columns with
  | nil => rfl
  | cons X columns ih =>
    rw [List.map_cons, utf8_cons, List.length_append, ih, List.length_cons]
    by_cases h : lit X = true
    · have hblock : (String.utf8EncodeChar (glyph (lit X))).length = 3 := by
        rw [h]
        decide
      rw [hblock, List.countP_cons_of_pos h]
      omega
    · have hspace : (String.utf8EncodeChar (glyph (lit X))).length = 1 := by
        rw [Bool.eq_false_iff.mpr h]
        decide
      rw [hspace, List.countP_cons_of_neg h]
      omega

/-! ## The box -/

/-- Lines that show a picture in a box: the upper edge, a line for every row of pixels, and the lower
edge. -/
structure Boxes (b : Bitmap) (lines : List (List Char)) : Prop where
  length : lines.length = screenHeight + 2
  upper : lines[0]? = some ('┌' :: List.replicate screenWidth '─' ++ ['┐'])
  middle : ∀ Y < screenHeight, ∃ row, lines[Y + 1]? = some row ∧ row.length = screenWidth + 2 ∧
    row[0]? = some '│' ∧ row[screenWidth + 1]? = some '│' ∧
    ∀ X < screenWidth, row[X + 1]? = some (if b.pixel X Y then '█' else ' ')
  lower : lines[screenHeight + 1]? = some ('└' :: List.replicate screenWidth '─' ++ ['┘'])

/-- An edge of the box, between its corners. -/
def edgeLine (left right : Char) : List Char :=
  left :: List.replicate screenWidth '─' ++ [right]

/-- A row of pixels in the box. -/
def boxedLine (f : Frame) (Y : Nat) : List Char := '│' :: f.lineChars Y ++ ['│']

/-- The lines of a painted screen, without their ends. -/
def boxLines (f : Frame) : List (List Char) :=
  edgeLine '┌' '┐' :: (List.range screenHeight).map f.boxedLine ++ [edgeLine '└' '┘']

/-- The end of a line. -/
def lineEnd : List Char := ['\r', '\n']

/-- How many characters a line has, its end included. -/
def lineLength : Nat := screenWidth + 4

theorem length_lineChars (f : Frame) (Y : Nat) : (f.lineChars Y).length = screenWidth := by
  rw [lineChars, List.length_map, List.length_range]

theorem length_edgeLine (left right : Char) : (edgeLine left right).length = screenWidth + 2 := by
  rw [edgeLine, List.length_append, List.length_cons, List.length_replicate]
  rfl

theorem length_boxedLine (f : Frame) (Y : Nat) : (f.boxedLine Y).length = screenWidth + 2 := by
  rw [boxedLine, List.length_append, List.length_cons, length_lineChars]
  rfl

theorem toList_edge : edge.toList = List.replicate screenWidth '─' := String.toList_ofList

theorem toList_upperEdge : (cursorHome ++ "┌" ++ edge ++ "┐\r\n").toList =
    '\x1b' :: '[' :: 'H' :: (edgeLine '┌' '┐' ++ lineEnd) := by
  have hhome : cursorHome.toList = ['\x1b', '[', 'H'] := rfl
  have hleft : "┌".toList = ['┌'] := rfl
  have hright : "┐\r\n".toList = '┐' :: lineEnd := rfl
  rw [String.toList_append, String.toList_append, String.toList_append, toList_edge, hhome, hleft,
    hright, edgeLine, List.append_assoc, List.append_assoc, List.append_assoc]
  rfl

theorem toList_lowerEdge : ("└" ++ edge ++ "┘\r\n").toList = edgeLine '└' '┘' ++ lineEnd := by
  have hleft : "└".toList = ['└'] := rfl
  have hright : "┘\r\n".toList = '┘' :: lineEnd := rfl
  rw [String.toList_append, String.toList_append, toList_edge, hleft, hright, edgeLine,
    List.append_assoc, List.append_assoc]
  rfl

theorem toList_boxed (f : Frame) (Y : Nat) :
    ("│" ++ String.ofList (f.lineChars Y) ++ "│\r\n").toList = f.boxedLine Y ++ lineEnd := by
  have hleft : "│".toList = ['│'] := rfl
  have hright : "│\r\n".toList = '│' :: lineEnd := rfl
  rw [String.toList_append, String.toList_append, hleft, hright, String.toList_ofList, boxedLine,
    List.append_assoc, List.append_assoc]
  rfl

theorem toList_rows (f : Frame) :
    (String.join (f.lines.map fun line => "│" ++ line ++ "│\r\n")).toList =
      ((List.range screenHeight).map f.boxedLine).flatMap (· ++ lineEnd) := by
  rw [String.toList_join, lines, List.map_map, List.flatMap_map, List.flatMap_map]
  exact List.flatMap_congr fun Y _ => f.toList_boxed Y

theorem toList_screen_parts (f : Frame) : f.screen.toList =
    '\x1b' :: '[' :: 'H' :: (edgeLine '┌' '┐' ++ lineEnd) ++
      ((List.range screenHeight).map f.boxedLine).flatMap (· ++ lineEnd) ++
      (edgeLine '└' '┘' ++ lineEnd) := by
  have hscreen : f.screen = (cursorHome ++ "┌" ++ edge ++ "┐\r\n") ++
      String.join (f.lines.map fun line => "│" ++ line ++ "│\r\n") ++ ("└" ++ edge ++ "┘\r\n") := by
    simp only [screen, String.append_assoc]
  rw [hscreen, String.toList_append, String.toList_append, toList_upperEdge, toList_rows,
    toList_lowerEdge]

/-- A painted screen is the sequence that moves the cursor home, and the lines of the box. -/
theorem toList_screen (f : Frame) :
    f.screen.toList = '\x1b' :: '[' :: 'H' :: f.boxLines.flatMap (· ++ lineEnd) := by
  rw [toList_screen_parts, boxLines, List.flatMap_append, List.flatMap_cons, List.flatMap_singleton]
  rfl

/-! ## How many bytes a screen has -/

theorem length_utf8_edgeLine {left right : Char} (hleft : left.utf8Size = 3)
    (hright : right.utf8Size = 3) : (utf8 (edgeLine left right ++ lineEnd)).length = 200 := by
  have hdash : (utf8 (List.replicate screenWidth '─')).length = 192 := by
    rw [utf8, List.length_flatMap, List.map_replicate, List.sum_replicate_nat]
    decide
  have hend : (utf8 lineEnd).length = 2 := by decide
  rw [edgeLine, utf8_append, utf8_append, utf8_cons, utf8_cons, utf8_nil, List.length_append,
    List.length_append, List.length_append, List.length_append, String.length_utf8EncodeChar,
    String.length_utf8EncodeChar, hleft, hright, hdash, hend, List.length_nil]

theorem length_utf8_boxedLine (f : Frame) (Y : Nat) : (utf8 (f.boxedLine Y ++ lineEnd)).length =
    72 + 2 * (List.range screenWidth).countP fun X => f.bitmap.pixel X Y := by
  have hpixels := length_utf8_glyphs (fun X => f.bitmap.pixel X Y) (List.range screenWidth)
  have hside : (String.utf8EncodeChar '│').length = 3 := by decide
  have hend : (utf8 lineEnd).length = 2 := by decide
  rw [List.length_range] at hpixels
  rw [boxedLine, utf8_append, utf8_append, utf8_cons, utf8_cons, utf8_nil, List.length_append,
    List.length_append, List.length_append, List.length_append, hside, hend, lineChars, hpixels,
    List.length_nil]
  simp only [screenWidth]
  omega

/-- A block takes two bytes more than a space. -/
theorem length_utf8_screen (f : Frame) :
    (utf8 f.screen.toList).length = 2707 + 2 * f.bitmap.litCount := by
  have hupper : (utf8 ('\x1b' :: '[' :: 'H' :: (edgeLine '┌' '┐' ++ lineEnd))).length = 203 := by
    have hhome : (utf8 ['\x1b', '[', 'H']).length = 3 := by decide
    have hedge : (utf8 (edgeLine '┌' '┐' ++ lineEnd)).length = 200 :=
      length_utf8_edgeLine (by decide) (by decide)
    show (utf8 (['\x1b', '[', 'H'] ++ (edgeLine '┌' '┐' ++ lineEnd))).length = 203
    rw [utf8_append, List.length_append, hhome, hedge]
  have hrows : (utf8 (((List.range screenHeight).map f.boxedLine).flatMap (· ++ lineEnd))).length =
      72 * screenHeight + 2 * f.bitmap.litCount := by
    have hlit := List.sum_map_mul_left (List.range screenHeight)
      (fun Y => (List.range screenWidth).countP fun X => f.bitmap.pixel X Y) 2
    rw [utf8_flatMap, List.flatMap_map, List.length_flatMap]
    simp only [length_utf8_boxedLine]
    rw [List.sum_map_add, hlit, List.map_const', List.sum_replicate_nat, List.length_range,
      Bitmap.litCount, Nat.mul_comm screenHeight]
  have hlower : (utf8 (edgeLine '└' '┘' ++ lineEnd)).length = 200 :=
    length_utf8_edgeLine (by decide) (by decide)
  rw [toList_screen_parts, utf8_append, utf8_append, List.length_append, List.length_append, hupper,
    hrows, hlower]
  simp only [screenHeight]
  omega

/-! ## Reading a screen -/

/-- Whether there is a block where a screen shows the pixel in column `X` of row `Y`. -/
def showsBlock (screen : List Char) (X Y : Nat) : Bool :=
  screen[lineLength * (Y + 1) + (X + 1) + 3]? == some '█'

/-- Eight pixels as a byte, the leftmost pixel its highest bit. -/
def packByte (pixel : Fin 8 → Bool) : UInt8 := UInt8.ofNat (Nat.ofBits fun i => pixel i.rev)

/-- The bytes of the picture that a painted screen shows. -/
def readScreen (sent : List UInt8) : List UInt8 :=
  let screen := (decodeLine? sent).getD []
  (List.range Bitmap.byteCount).map fun k =>
    packByte fun i => showsBlock screen (8 * (k % 8) + i) (k / 8)

theorem getElem?_boxLines (f : Frame) {Y : Nat} (hY : Y < screenHeight) :
    f.boxLines[Y + 1]? = some (f.boxedLine Y) := by
  have hlength : Y < ((List.range screenHeight).map f.boxedLine).length := by
    rwa [List.length_map, List.length_range]
  rw [boxLines, List.cons_append, List.getElem?_cons_succ, List.getElem?_append_left hlength,
    List.getElem?_map, List.getElem?_range hY]
  rfl

theorem getElem?_boxedLine (f : Frame) {X : Nat} (hX : X < screenWidth) (Y : Nat) :
    (f.boxedLine Y)[X + 1]? = some (glyph (f.bitmap.pixel X Y)) := by
  have hlength : X < (f.lineChars Y).length := by rwa [length_lineChars]
  rw [boxedLine, List.cons_append, List.getElem?_cons_succ, List.getElem?_append_left hlength,
    lineChars, List.getElem?_map, List.getElem?_range hX]
  rfl

/-- The lines of a painted screen show its picture. -/
theorem boxes_boxLines (f : Frame) : Boxes f.bitmap f.boxLines where
  length := by
    rw [boxLines, List.length_append, List.length_cons, List.length_map, List.length_range]
    rfl
  upper := rfl
  middle Y hY := by
    refine ⟨_, f.getElem?_boxLines hY, f.length_boxedLine Y, rfl, ?_, ?_⟩
    · have hlast : screenWidth = (f.lineChars Y).length := (f.length_lineChars Y).symm
      rw [boxedLine, List.cons_append, List.getElem?_cons_succ, hlast, List.getElem?_concat_length]
    · intro X hX
      exact f.getElem?_boxedLine hX Y
  lower := by
    have hlast : screenHeight = ((List.range screenHeight).map f.boxedLine).length := by
      rw [List.length_map, List.length_range]
    rw [boxLines, List.cons_append, List.getElem?_cons_succ]
    conv_lhs => rw [hlast]
    exact List.getElem?_concat_length

theorem length_of_mem_boxLines (f : Frame) {line : List Char} (h : line ∈ f.boxLines) :
    (line ++ lineEnd).length = lineLength := by
  have hline : line.length = screenWidth + 2 := by
    rw [boxLines, List.cons_append, List.mem_cons, List.mem_append, List.mem_singleton,
      List.mem_map] at h
    rcases h with rfl | ⟨Y, -, rfl⟩ | rfl
    · exact length_edgeLine _ _
    · exact f.length_boxedLine Y
    · exact length_edgeLine _ _
  rw [List.length_append, hline]
  rfl

theorem showsBlock_screen (f : Frame) {X Y : Nat} (hX : X < screenWidth) (hY : Y < screenHeight) :
    showsBlock f.screen.toList X Y = f.bitmap.pixel X Y := by
  have hplace : X + 1 < lineLength := by
    simp only [lineLength, screenWidth] at hX ⊢
    omega
  have hinner : X + 1 < (f.boxedLine Y).length := by
    rw [length_boxedLine]
    omega
  have hglyph : f.screen.toList[lineLength * (Y + 1) + (X + 1) + 3]? =
      some (glyph (f.bitmap.pixel X Y)) := by
    rw [toList_screen]
    show (f.boxLines.flatMap (· ++ lineEnd))[lineLength * (Y + 1) + (X + 1)]? = _
    rw [Bitmap.getElem?_flatMap_of_length f.boxLines (fun _ => f.length_of_mem_boxLines) hplace,
      f.getElem?_boxLines hY, Option.bind_some, List.getElem?_append_left hinner,
      f.getElem?_boxedLine hX]
  rw [showsBlock, hglyph]
  cases f.bitmap.pixel X Y <;> decide

theorem packByte_testBit (byte : UInt8) : packByte (fun i => byte.toNat.testBit (7 - i)) = byte := by
  have hrev (i : Fin 8) : 7 - (i.rev : Nat) = i := by
    rw [Fin.val_rev]
    omega
  simp only [packByte, hrev]
  rw [Nat.ofBits_testBit, Nat.mod_eq_of_lt byte.toNat_lt, UInt8.ofNat_toNat]

/-- The bytes of a picture are read off what was sent to show it. -/
theorem readScreen_screen (f : Frame) : readScreen f.screen.toUTF8.toList = f.bitmap.bytes := by
  rw [readScreen, decodeLine?_toUTF8]
  apply List.ext_getElem
  · rw [List.length_map, List.length_range, Bitmap.length_bytes]
  · intro k hk hbytes
    rw [List.getElem_map, List.getElem_range, ← packByte_testBit f.bitmap.bytes[k]]
    refine congrArg packByte (funext fun i => ?_)
    have hk : k < 256 := by rwa [Bitmap.length_bytes] at hbytes
    have hX : 8 * (k % 8) + i < screenWidth := by
      simp only [screenWidth]
      omega
    have hY : k / 8 < screenHeight := by
      simp only [screenHeight]
      omega
    have hindex : 8 * (k / 8) + (8 * (k % 8) + i) / 8 = k := by omega
    have hbit : 7 - (8 * (k % 8) + i) % 8 = 7 - (i : Nat) := by omega
    obtain ⟨byte, hbyte, hpixel⟩ := f.bitmap.pixel_eq_testBit_bytes hX hY
    rw [hindex, List.getElem?_eq_getElem hbytes, Option.some_inj] at hbyte
    rw [Option.getD_some, f.showsBlock_screen hX hY, hpixel, hbit, hbyte]

/-- Frames are painted alike exactly if their pictures are the same. -/
theorem screen_bytes_eq_iff (f g : Frame) :
    g.screen.toUTF8.toList = f.screen.toUTF8.toList ↔ g.bitmap.bytes = f.bitmap.bytes := by
  constructor
  · intro hsent
    rw [← readScreen_screen, hsent, readScreen_screen]
  · intro hbytes
    have hlines : g.lines = f.lines := by
      simp only [lines, lineChars, Bitmap.bytes_inj.mp hbytes]
    rw [screen, hlines]
    rfl

/-! ## Sending a screen in pieces -/

/-- A screen as it is sent: the upper edge of the box, each line of the text of the frame between its
sides, and the lower edge. -/
def pieces (f : Frame) : List (List UInt8) :=
  (cursorHome ++ "┌" ++ edge ++ "┐\r\n").toUTF8.toList ::
    (lineBytes f.text.toUTF8.toList).map
      (fun line => "│".toUTF8.toList ++ line ++ "│\r\n".toUTF8.toList) ++
    [("└" ++ edge ++ "┘\r\n").toUTF8.toList]

/-- No byte of a row of pixels ends a line. -/
theorem ne_of_mem_utf8_lineChars (f : Frame) {Y : Nat} {byte : UInt8}
    (h : byte ∈ utf8 (f.lineChars Y)) : byte ≠ 0x0A ∧ byte ≠ 0x0D := by
  have hblock : String.utf8EncodeChar '█' = [0xE2, 0x96, 0x88] := rfl
  have hspace : String.utf8EncodeChar ' ' = [0x20] := rfl
  obtain ⟨c, hc, hbyte⟩ := List.mem_flatMap.mp h
  obtain ⟨X, -, rfl⟩ := List.mem_map.mp hc
  by_cases hlit : f.bitmap.pixel X Y
  · rw [glyph, if_pos hlit, hblock, List.mem_cons, List.mem_cons, List.mem_singleton] at hbyte
    rcases hbyte with rfl | rfl | rfl <;> decide
  · rw [glyph, if_neg hlit, hspace, List.mem_singleton] at hbyte
    rw [hbyte]
    decide

/-- The lines of the text of a frame are its rows: none is swallowed, and none is split. -/
theorem lineBytes_text (f : Frame) : lineBytes f.text.toUTF8.toList =
    (List.range screenHeight).map fun Y => utf8 (f.lineChars Y) := by
  have htext : f.text.toUTF8.toList =
      ((List.range screenHeight).map fun Y => utf8 (f.lineChars Y)).flatMap (· ++ [0x0A]) := by
    rw [toList_toUTF8, text, lines, String.toList_join, List.map_map, List.flatMap_map,
      List.flatMap_map, utf8_flatMap]
    refine List.flatMap_congr fun Y _ => ?_
    rw [Function.comp_apply, String.toList_append, String.toList_ofList, utf8_append]
    rfl
  rw [htext]
  refine lineBytes_flatMap_lineFeed ?_ ?_
  · intro line hline hmem
    obtain ⟨Y, -, rfl⟩ := List.mem_map.mp hline
    exact (f.ne_of_mem_utf8_lineChars hmem).1 rfl
  · intro line hline hlast
    obtain ⟨Y, -, rfl⟩ := List.mem_map.mp hline
    exact (f.ne_of_mem_utf8_lineChars (List.mem_of_getLast? hlast)).2 rfl

/-- The pieces make up the painted screen: the text of a frame, cut into its lines again, gives back the
rows of pixels. -/
theorem flatten_pieces (f : Frame) : f.pieces.flatten = f.screen.toUTF8.toList := by
  have hrow (Y : Nat) : "│".toUTF8.toList ++ utf8 (f.lineChars Y) ++ "│\r\n".toUTF8.toList =
      utf8 (f.boxedLine Y ++ lineEnd) := by
    have hline := String.toList_ofList (l := f.lineChars Y)
    rw [← toList_boxed, String.toList_append, String.toList_append, hline, utf8_append, utf8_append,
      toList_toUTF8, toList_toUTF8]
  have hrows : ((lineBytes f.text.toUTF8.toList).map fun line =>
        "│".toUTF8.toList ++ line ++ "│\r\n".toUTF8.toList).flatten =
      utf8 (((List.range screenHeight).map f.boxedLine).flatMap (· ++ lineEnd)) := by
    rw [lineBytes_text, List.map_map, utf8_flatMap, List.flatMap_map]
    exact List.flatMap_congr fun Y _ => hrow Y
  rw [pieces, List.cons_append, List.flatten_cons, List.flatten_append, hrows, List.flatten_singleton,
    toList_toUTF8, toList_toUTF8, toList_toUTF8, toList_upperEdge, toList_lowerEdge,
    toList_screen_parts, ← utf8_append, ← utf8_append, List.append_assoc]

end Frame

/-! ## Terminals that run full -/

namespace BoundedTerminal

/-- Sends pieces one after another, and stops at the first one that is not taken as a whole. -/
def writeAll (t : BoundedTerminal) :
    (pieces : List (List UInt8)) → Except TerminalError Unit × BoundedTerminal
  | [] => (.ok (), t)
  | piece :: rest =>
    match t.write piece with
    | (.ok (), t) => t.writeAll rest
    | (.error e, t) => (.error e, t)

theorem write_of_le {t : BoundedTerminal} {bytes : List UInt8} (h : bytes.length ≤ t.room) :
    t.write bytes = (.ok (), ⟨t.room - bytes.length, t.received ++ bytes⟩) := by
  rw [write, if_pos h, List.take_of_length_le h]

theorem write_of_lt {t : BoundedTerminal} {bytes : List UInt8} (h : t.room < bytes.length) :
    t.write bytes = (.error .full, ⟨0, t.received ++ bytes.take t.room⟩) := by
  rw [write, if_neg (Nat.not_le.mpr h), Nat.sub_eq_zero_of_le (Nat.le_of_lt h)]

theorem fst_write_eq_ok_iff (t : BoundedTerminal) (bytes : List UInt8) :
    (t.write bytes).1 = .ok () ↔ bytes.length ≤ t.room := by
  by_cases h : bytes.length ≤ t.room
  · simp only [write_of_le h, h]
  · simp only [write_of_lt (Nat.lt_of_not_le h), h, reduceCtorEq]

theorem received_write (t : BoundedTerminal) (bytes : List UInt8) :
    (t.write bytes).2.received = t.received ++ bytes.take t.room := by
  by_cases h : bytes.length ≤ t.room
  · rw [write_of_le h, List.take_of_length_le h]
  · rw [write_of_lt (Nat.lt_of_not_le h)]

/-- To a terminal it makes no difference how what it is sent is cut into pieces. -/
theorem writeAll_eq_write (t : BoundedTerminal) (pieces : List (List UInt8)) :
    t.writeAll pieces = t.write pieces.flatten := by
  induction pieces generalizing t with
  | nil =>
    rw [List.flatten_nil, write_of_le (Nat.zero_le _), List.append_nil]
    rfl
  | cons piece rest ih =>
    rw [writeAll, List.flatten_cons]
    by_cases hpiece : piece.length ≤ t.room
    · rw [write_of_le hpiece]
      show writeAll _ rest = _
      rw [ih]
      by_cases hrest : rest.flatten.length ≤ t.room - piece.length
      · have hall : (piece ++ rest.flatten).length ≤ t.room := by
          rw [List.length_append]
          omega
        rw [write_of_le hrest, write_of_le hall, List.length_append, List.append_assoc, Nat.sub_sub]
      · have hall : t.room < (piece ++ rest.flatten).length := by
          rw [List.length_append]
          omega
        rw [write_of_lt (Nat.lt_of_not_le hrest), write_of_lt hall, List.take_append,
          List.take_of_length_le hpiece, List.append_assoc]
    · have hlt : t.room < piece.length := Nat.lt_of_not_le hpiece
      have hall : t.room < (piece ++ rest.flatten).length := by
        rw [List.length_append]
        omega
      rw [write_of_lt hlt, write_of_lt hall, List.take_append_of_le_length (Nat.le_of_lt hlt)]

end BoundedTerminal

/-- A painted screen is the sequence that moves the cursor home and the picture in a box, a block for a
lit pixel and a space for a dark one. The picture can be read off the bytes that are sent, and nothing
else of the frame is in them. However they are cut into pieces, a terminal receives as many of them as
it takes, and painting succeeds if it takes them all. -/
theorem screen_encodes_frame (f : Frame) :
    let sent := f.screen.toUTF8.toList
    f.pieces.flatten = sent ∧
      sent.length = 2707 + 2 * f.bitmap.litCount ∧
      (∃ lines, f.screen.toList = '\x1b' :: '[' :: 'H' :: lines.flatMap (· ++ ['\r', '\n']) ∧
        Frame.Boxes f.bitmap lines) ∧
      Frame.readScreen sent = f.bitmap.bytes ∧
      (∀ g : Frame, g.screen.toUTF8.toList = sent ↔ g.bitmap.bytes = f.bitmap.bytes) ∧
      (∀ dirty, Frame.screen ⟨f.bitmap, dirty⟩ = f.screen) ∧
      ∀ n pieces, pieces.flatten = sent →
        let (result, terminal) := (BoundedTerminal.ofRoom n).writeAll pieces
        (result, terminal) = (BoundedTerminal.ofRoom n).paint f ∧
        (result = .ok () ↔ sent.length ≤ n) ∧
        (n < sent.length →
          ∃ e, result = .error e ∧ e.message = "failed to write whole buffer") ∧
        terminal.received = sent.take n := by
  refine ⟨f.flatten_pieces, ?_, ⟨_, f.toList_screen, f.boxes_boxLines⟩, f.readScreen_screen,
    f.screen_bytes_eq_iff, ?_, ?_⟩
  · rw [toList_toUTF8]
    exact f.length_utf8_screen
  · intro dirty
    rfl
  · intro n pieces hpieces
    have hpaint : (BoundedTerminal.ofRoom n).writeAll pieces = (BoundedTerminal.ofRoom n).paint f := by
      rw [BoundedTerminal.writeAll_eq_write, hpieces, BoundedTerminal.paint]
    rw [hpaint]
    refine ⟨rfl, BoundedTerminal.fst_write_eq_ok_iff _ _, ?_, BoundedTerminal.received_write _ _⟩
    intro hn
    have hfull : (BoundedTerminal.ofRoom n).paint f =
        (.error .full, ⟨0, [] ++ f.screen.toUTF8.toList.take n⟩) := BoundedTerminal.write_of_lt hn
    exact ⟨.full, congrArg Prod.fst hfull, rfl⟩

end Chip8
