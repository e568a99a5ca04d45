import Chip8.Text.Lines

/-!
# Text as bytes

A string is handed out as the bytes of its characters, one character after another, and the characters
are found again in them. So are lines that were written one after another, each ended by a line feed.
-/

namespace Chip8.Text

/-- The bytes of characters. -/
def utf8 (characters : List Char) : List UInt8 := characters.flatMap String.utf8EncodeChar

@[simp] theorem utf8_nil : utf8 [] = [] := rfl

@[simp] theorem utf8_append (cs ds : List Char) : utf8 (cs ++ ds) = utf8 cs ++ utf8 ds :=
  List.flatMap_append

theorem utf8_cons (c : Char) (cs : List Char) : utf8 (c :: cs) = String.utf8EncodeChar c ++ utf8 cs :=
  rfl

theorem utf8_flatMap {α : Type} (xs : List α) (f : α → List Char) :
    utf8 (xs.flatMap f) = xs.flatMap fun x => utf8 (f x) :=
  List.flatMap_assoc

/-! ## Byte arrays -/

theorem toList_loop (bytes : ByteArray) (i : Nat) (read : List UInt8) :
    ByteArray.toList.loop bytes i read = read.reverse ++ bytes.data.toList.drop i := by
  fun_induction ByteArray.toList.loop bytes i read with
  | case1 i read hi ih =>
    have hlen : i < bytes.data.toList.length := hi
    have hbyte : bytes.get! i = bytes.data.toList[i] := getElem!_pos bytes.data i hi
    rw [ih, hbyte, List.drop_eq_getElem_cons hlen, List.reverse_cons, List.append_assoc]
    rfl
  | case2 i read hi =>
    rw [List.drop_eq_nil_of_le (Nat.le_of_not_lt hi), List.append_nil]

theorem toList_eq_toList_data (bytes : ByteArray) : bytes.toList = bytes.data.toList :=
  toList_loop bytes 0 []

/-- A string is handed out as the bytes of its characters. -/
theorem toList_toUTF8 (s : String) : s.toUTF8.toList = utf8 s.toList := by
  rw [toList_eq_toList_data, String.toUTF8, ← String.utf8Encode_toList]
  exact List.toList_data_toByteArray

/-- The characters of a string are found again in its bytes. -/
theorem decodeLine?_toUTF8 (s : String) : decodeLine? s.toUTF8.toList = some s.toList := by
  have hbytes : (⟨s.toUTF8.toList.toArray⟩ : ByteArray) = s.toByteArray := by
    rw [toList_eq_toList_data]
    rfl
  rw [decodeLine?, hbytes, String.fromUTF8?, dif_pos s.isValidUTF8]
  rfl

/-! ## Lines -/

theorem splitLines_append_lineFeed {line : List UInt8} (h : 0x0A ∉ line) (rest : List UInt8) :
    splitLines (line ++ 0x0A :: rest) =
      (line :: (splitLines rest).1, (splitLines rest).2) := by
  induction line with
  | nil => rfl
  | cons byte line ih =>
    have hbyte : 0x0A ≠ byte := List.ne_of_not_mem_cons h
    have hline : 0x0A ∉ line := List.not_mem_of_not_mem_cons h
    rw [List.cons_append, splitLines, ih hline]
    exact if_neg (Ne.symm hbyte)

theorem splitLines_flatMap_lineFeed {lines : List (List UInt8)} (h : ∀ line ∈ lines, 0x0A ∉ line) :
    splitLines (lines.flatMap (· ++ [0x0A])) = (lines, []) := by
  induction lines with
  | nil => rfl
  | cons line lines ih =>
    obtain ⟨hline, hlines⟩ := List.forall_mem_cons.mp h
    rw [List.flatMap_cons, List.append_assoc, List.singleton_append,
      splitLines_append_lineFeed hline, ih hlines]

/-- Lines that were written one after another are found again, if they contain no line feed and do not
end in a carriage return. -/
theorem lineBytes_flatMap_lineFeed {lines : List (List UInt8)} (h : ∀ line ∈ lines, 0x0A ∉ line)
    (hreturn : ∀ line ∈ lines, line.getLast? ≠ some 0x0D) :
    lineBytes (lines.flatMap (· ++ [0x0A])) = lines := by
  have hkept : lines.map dropReturn = lines.map id :=
    List.map_congr_left fun line hline => if_neg (hreturn line hline)
  rw [lineBytes, splitLines_flatMap_lineFeed h]
  show lines.map dropReturn ++ [] = lines
  rw [hkept, List.map_id, List.append_nil]

end Chip8.Text
