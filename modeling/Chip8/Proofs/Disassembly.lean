import Chip8.Instruction.Mnemonic
import Chip8.Proofs.InstructionSet
import Chip8.Proofs.Text.Bytes
import Chip8.Proofs.Text.Numerals

/-!
# A disassembly is lossless

A mnemonic is read by trying all forms, one after another. Since no text is written after two forms, it
does not matter in which order; and since a form shows every digit that the mask of its operation does
not fix, the digits that are read and those of the value make up the word. So a listing with one
mnemonic a line gives its words back.
-/

namespace Chip8.Word

/-! ## The digits of a word -/

/-- The word with these hexadecimal digits, digit 0 being the last one. -/
def ofDigits (digit : Nat → Nat) : Word :=
  .ofNat (4096 * digit 3 + 256 * digit 2 + 16 * digit 1 + digit 0)

theorem toNat_eq_digits (w : Word) :
    4096 * (w.nibbleAt 3).val + 256 * (w.nibbleAt 2).val + 16 * (w.nibbleAt 1).val +
      (w.nibbleAt 0).val = w.toNat := by
  have hlt : w.toNat < 65536 := w.toNat_lt
  simp only [nibbleAt, Nat.shiftRight_eq_div_pow]
  omega

theorem ofDigits_eq {digit : Nat → Nat} {w : Word} (h : ∀ k < 4, digit k = (w.nibbleAt k).val) :
    ofDigits digit = w := by
  rw [ofDigits, h 3 (by decide), h 2 (by decide), h 1 (by decide), h 0 (by decide), toNat_eq_digits]
  exact UInt16.ofNat_toNat

theorem nibbleAt_and (v w : Word) (k : Nat) :
    ((v &&& w).nibbleAt k).val = (v.nibbleAt k).val &&& (w.nibbleAt k).val := by
  show (v &&& w).toNat >>> (4 * k) % 2 ^ 4 =
    v.toNat >>> (4 * k) % 2 ^ 4 &&& w.toNat >>> (4 * k) % 2 ^ 4
  rw [UInt16.toNat_and, Nat.shiftRight_and_distrib, Nat.and_mod_two_pow]

/-- A digit that the mask fixes is that of the value. -/
theorem nibbleAt_of_masked {w mask value : Word} (h : w &&& mask = value) {k : Nat}
    (hmask : mask.nibbleAt k = 15) : (value.nibbleAt k).val = (w.nibbleAt k).val := by
  have hfull : (15 : Fin 16).val = 2 ^ 4 - 1 := rfl
  rw [← h, nibbleAt_and, hmask, hfull, Nat.and_two_pow_sub_one_eq_mod]
  exact Nat.mod_eq_of_lt (w.nibbleAt k).isLt

/-! ## Reading a form -/

/-- The places of the digits that a form shows. -/
def places (form : List Char) : List Nat := form.filterMap placeOf?

/-- Reads a text that is written after a form: the digits at the places that the form shows. -/
def readForm? : (form text : List Char) → Option (List (Nat × Nat))
  | [], [] => some []
  | f :: form, c :: text =>
    match placeOf? f with
    | some place => do
      let digit ← Text.digitValue? 16 c
      let digits ← readForm? form text
      return (place, digit) :: digits
    | none => if f = c then readForm? form text else none
  | _, _ => none

/-- A form that is filled in shows the digits of the word. -/
theorem readForm?_fill (w : Word) (form : List Char) :
    readForm? form (form.map w.fillChar) =
      some ((places form).map fun k => (k, (w.nibbleAt k).val)) := by
  have hlegible : Text.Legible Numeral.capitals 16 := by decide
  induction form with
  | nil => rfl
  | cons f form ih =>
    rw [List.map_cons, readForm?, fillChar, places, List.filterMap_cons]
    rcases placeOf? f with _ | place
    · exact (if_pos rfl).trans ih
    · simp only [hlegible _ (w.nibbleAt place).isLt, ih]
      rfl

/-- The character can stand where a form has `f`. -/
def Fits (f c : Char) : Prop :=
  match placeOf? f with
  | some _ => (Text.digitValue? 16 c).isSome
  | none => f = c

theorem fits_of_readForm? {f c : Char} {form text : List Char}
    (h : (readForm? (f :: form) (c :: text)).isSome) : Fits f c ∧ (readForm? form text).isSome := by
  rw [readForm?] at h
  rw [Fits]
  rcases hf : placeOf? f with _ | place
  · rw [hf] at h
    by_cases hc : f = c
    · exact ⟨hc, by simpa [hc] using h⟩
    · simp [hc] at h
  · rw [hf] at h
    rcases hc : Text.digitValue? 16 c with _ | digit
    · simp [hc] at h
    · rcases hrest : readForm? form text with _ | digits
      · simp [hrest] at h
      · exact ⟨rfl, rfl⟩

/-- No character can stand where one form has `f` and another one has `g`. -/
def apart (f g : Char) : Bool :=
  match placeOf? f, placeOf? g with
  | none, none => f != g
  | some _, none => (Text.digitValue? 16 g).isNone
  | none, some _ => (Text.digitValue? 16 f).isNone
  | some _, some _ => false

theorem apart_eq_false {f g c : Char} (hf : Fits f c) (hg : Fits g c) : apart f g = false := by
  rw [Fits] at hf hg
  rw [apart]
  rcases hfplace : placeOf? f with _ | place
  · rw [hfplace] at hf
    rcases hgplace : placeOf? g with _ | place
    · rw [hgplace] at hg
      exact bne_eq_false_iff_eq.mpr (hf.trans hg.symm)
    · rw [hgplace] at hg
      exact hf ▸ Option.isNone_eq_false_iff.mpr hg
  · rw [hfplace] at hf
    rcases hgplace : placeOf? g with _ | place'
    · rw [hgplace] at hg
      exact hg ▸ Option.isNone_eq_false_iff.mpr hf
    · rfl

/-- No text is written after both forms. -/
def clash : (form other : List Char) → Bool
  | [], [] => false
  | f :: form, g :: other => apart f g || clash form other
  | _, _ => true

theorem clash_eq_false {form other text : List Char} (hform : (readForm? form text).isSome)
    (hother : (readForm? other text).isSome) : clash form other = false := by
  induction form generalizing other text with
  | nil =>
    rcases text with _ | ⟨c, text⟩
    · rcases other with _ | ⟨g, other⟩
      · rfl
      · exact absurd hother (by simp [readForm?])
    · exact absurd hform (by simp [readForm?])
  | cons f form ih =>
    rcases text with _ | ⟨c, text⟩
    · exact absurd hform (by simp [readForm?])
    · rcases other with _ | ⟨g, other⟩
      · exact absurd hother (by simp [readForm?])
      · obtain ⟨hf, hform'⟩ := fits_of_readForm? hform
        obtain ⟨hg, hother'⟩ := fits_of_readForm? hother
        rw [clash, apart_eq_false hf hg, ih hform' hother']
        rfl

/-! ## Reading a mnemonic -/

/-- A form, and the digits that stand where it shows none. -/
structure Template where
  /-- The form. -/
  form : List Char
  /-- The word with these digits. -/
  value : Word

namespace Template

/-- The template of an operation. -/
def ofPattern (p : Pattern) : Template := ⟨p.operation.form.toList, p.value⟩

/-- The template of words that mean nothing. -/
def unrecognised : Template := ⟨unrecognisedForm.toList, 0⟩

/-- Reads a text that is written after the form. -/
def read? (t : Template) (text : List Char) : Option Word :=
  (readForm? t.form text).map fun digits =>
    ofDigits fun k => (digits.lookup k).getD (t.value.nibbleAt k)

/-- The form shows all digits of the word but those that it has in common with the value. -/
def Covers (t : Template) (w : Word) : Prop :=
  ∀ k < 4, k ∈ places t.form ∨ (t.value.nibbleAt k).val = (w.nibbleAt k).val

theorem read?_fill {t : Template} {w : Word} (h : t.Covers w) :
    t.read? (t.form.map w.fillChar) = some w := by
  rw [read?, readForm?_fill, Option.map_some, Option.some_inj]
  refine ofDigits_eq fun k hk => ?_
  by_cases hplace : k ∈ places t.form
  · rw [List.lookup_graph _ hplace, Option.getD_some]
  · have hnone : ((places t.form).map fun k => (k, (w.nibbleAt k).val)).lookup k = none := by
      rw [List.lookup_eq_none_iff]
      intro entry hentry
      obtain ⟨k', hk', rfl⟩ := List.mem_map.mp hentry
      refine bne_iff_ne.mpr ?_
      rintro rfl
      exact hplace hk'
    rw [hnone, Option.getD_none]
    exact (h k hk).resolve_left hplace

theorem clash_form_eq_false {s t : Template} {text : List Char} (hs : (s.read? text).isSome)
    (ht : (t.read? text).isSome) : clash s.form t.form = false := by
  rw [read?, Option.isSome_map] at hs ht
  exact clash_eq_false hs ht

end Template

/-- All templates. -/
def templates : List Template := instructionSet.map .ofPattern ++ [.unrecognised]

/-- Reads a mnemonic. -/
def ofMnemonic? (text : List Char) : Option Word :=
  templates.findSome? fun t => t.read? text

theorem toList_mnemonic (w : Word) : w.mnemonic.toList = w.form.toList.map w.fillChar :=
  String.toList_ofList

/-- Every word is written after the form of a template that covers it. -/
theorem exists_template (w : Word) :
    ∃ t ∈ templates, t.Covers w ∧ w.mnemonic.toList = t.form.map w.fillChar := by
  have hshown : ∀ p ∈ instructionSet, ∀ k < 4,
      k ∈ places p.operation.form.toList ∨ nibbleAt p.mask k = 15 := by
    decide
  have hall : ∀ k < 4, k ∈ places unrecognisedForm.toList := by
    decide
  rw [toList_mnemonic, form]
  rcases hop : w.operation? with _ | operation
  · exact ⟨.unrecognised, List.mem_append_right _ List.mem_cons_self,
      fun k hk => Or.inl (hall k hk), rfl⟩
  · obtain ⟨p, hp, rfl, hw⟩ := matches_of_operation? hop
    exact ⟨.ofPattern p, List.mem_append_left _ (List.mem_map_of_mem hp),
      fun k hk => (hshown p hp k hk).imp_right (nibbleAt_of_masked hw), rfl⟩

/-- Every word is read off its mnemonic. -/
theorem ofMnemonic?_mnemonic (w : Word) : ofMnemonic? w.mnemonic.toList = some w := by
  have hclash : templates.Pairwise fun s t => clash s.form t.form := by
    decide +kernel
  obtain ⟨t, hmem, hcovers, htext⟩ := w.exists_template
  have hread : t.read? w.mnemonic.toList = some w := by
    rw [htext, Template.read?_fill hcovers]
  obtain ⟨earlier, later, hsplit⟩ := List.append_of_mem hmem
  rw [hsplit] at hclash
  have hnone : (earlier.findSome? fun s => s.read? w.mnemonic.toList) = none := by
    rw [List.findSome?_eq_none_iff]
    intro s hs
    by_contra hne
    have hst : clash s.form t.form = true :=
      (List.pairwise_append.mp hclash).2.2 s hs t List.mem_cons_self
    rw [Template.clash_form_eq_false (Option.isSome_iff_ne_none.mpr hne) (by rw [hread]; rfl)] at hst
    exact Bool.false_ne_true hst
  rw [ofMnemonic?, hsplit, List.findSome?_append, hnone, List.findSome?_cons, hread]
  rfl

/-! ## Characters of mnemonics -/

/-- No byte of the character ends a line. -/
def isPlain (c : Char) : Bool :=
  (String.utf8EncodeChar c).all fun byte => byte != 0x0A && byte != 0x0D

theorem isPlain_of_mem_mnemonic {w : Word} {c : Char} (h : c ∈ w.mnemonic.toList) : isPlain c := by
  have hdigit : ('?' :: Numeral.capitals).all isPlain := by
    decide
  have hform : ∀ t ∈ templates, t.form.all isPlain := by
    decide +kernel
  obtain ⟨t, hmem, -, htext⟩ := w.exists_template
  rw [htext] at h
  obtain ⟨f, hf, rfl⟩ := List.mem_map.mp h
  rw [fillChar]
  split
  · exact List.all_eq_true.mp hdigit _ (Numeral.digit_mem _ _)
  · exact List.all_eq_true.mp (hform t hmem) f hf

theorem ne_of_mem_utf8_mnemonic {w : Word} {byte : UInt8} (h : byte ∈ Text.utf8 w.mnemonic.toList) :
    byte ≠ 0x0A ∧ byte ≠ 0x0D := by
  obtain ⟨c, hc, hbyte⟩ := List.mem_flatMap.mp h
  have hplain := List.all_eq_true.mp (isPlain_of_mem_mnemonic hc) byte hbyte
  rw [Bool.and_eq_true, bne_iff_ne, bne_iff_ne] at hplain
  exact hplain

/-- A mnemonic starts with question marks exactly if the word is no instruction. -/
theorem questionMarks_prefix_mnemonic_iff (w : Word) :
    "????".toList <+: w.mnemonic.toList ↔ w.operation? = none := by
  have hhead : ∀ p ∈ instructionSet,
      p.operation.form.toList.head?.all fun f => (placeOf? f).isNone && f != '?' := by
    decide
  rw [toList_mnemonic, form]
  constructor
  · rintro ⟨rest, htext⟩
    rcases hop : w.operation? with _ | operation
    · rfl
    · obtain ⟨p, hp, rfl, -⟩ := matches_of_operation? hop
      rw [hop] at htext
      obtain ⟨f, form, hform, hf, -⟩ := List.map_eq_cons_iff.mp htext.symm
      have hf' := hhead p hp
      rw [hform, List.head?_cons, Option.all_some, Bool.and_eq_true, Option.isNone_iff_eq_none,
        bne_iff_ne] at hf'
      rw [fillChar, hf'.1] at hf
      exact absurd hf hf'.2
  · intro hop
    rw [hop]
    exact ⟨" pxyn".toList.map w.fillChar, rfl⟩

/-! ## Listings -/

/-- Mnemonics, one a line. -/
def listing (ws : List Word) : String := String.join (ws.map fun w => w.mnemonic ++ "\n")

theorem utf8_listing (ws : List Word) : (listing ws).toUTF8.toList =
    (ws.map fun w => Text.utf8 w.mnemonic.toList).flatMap (· ++ [0x0A]) := by
  rw [Text.toList_toUTF8, listing, String.toList_join, List.flatMap_map, Text.utf8_flatMap,
    List.flatMap_map]
  refine List.flatMap_congr fun w _ => ?_
  rw [String.toList_append, Text.utf8_append]
  rfl

/-- The lines of a listing are its mnemonics. -/
theorem lines_listing (ws : List Word) :
    Text.lines (listing ws).toUTF8.toList = ws.map fun w => some w.mnemonic.toList := by
  have hplain (line : List UInt8) (hline : line ∈ ws.map fun w => Text.utf8 w.mnemonic.toList)
      (byte : UInt8) (hbyte : byte ∈ line) : byte ≠ 0x0A ∧ byte ≠ 0x0D := by
    obtain ⟨w, -, rfl⟩ := List.mem_map.mp hline
    exact ne_of_mem_utf8_mnemonic hbyte
  have hbytes : Text.lineBytes (listing ws).toUTF8.toList =
      ws.map fun w => Text.utf8 w.mnemonic.toList := by
    rw [utf8_listing]
    refine Text.lineBytes_flatMap_lineFeed ?_ ?_
    · intro line hline hmem
      exact (hplain line hline _ hmem).1 rfl
    · intro line hline hlast
      exact (hplain line hline _ (List.mem_of_getLast? hlast)).2 rfl
  rw [Text.lines, hbytes, List.map_map]
  refine List.map_congr_left fun w _ => ?_
  rw [Function.comp_apply, ← Text.toList_toUTF8, Text.decodeLine?_toUTF8]

end Chip8.Word

/-! ## Main statement -/

namespace Chip8

/-- One reader gives the words of every listing back. Equivalently, no two words have one mnemonic, and
none of them goes over the end of a line. A mnemonic starts with question marks exactly if the word is
no instruction. -/
theorem listing_gives_words_back :
    (∀ ws : List Word,
      (Text.lines (Word.listing ws).toUTF8.toList).map (fun line => line.bind Word.ofMnemonic?) =
        ws.map some) ∧
    Function.Injective Word.mnemonic ∧
    (∀ w : Word, '\n' ∉ w.mnemonic.toList) ∧
    ∀ w : Word, "????".toList <+: w.mnemonic.toList ↔ w.operation? = none := by
  refine ⟨fun ws => ?_, fun v w h => ?_, fun w hmem => ?_, Word.questionMarks_prefix_mnemonic_iff⟩
  · rw [Word.lines_listing, List.map_map]
    refine List.map_congr_left fun w _ => ?_
    rw [Function.comp_apply, Option.bind_some, Word.ofMnemonic?_mnemonic]
  · have hread := v.ofMnemonic?_mnemonic
    rw [h, Word.ofMnemonic?_mnemonic] at hread
    exact (Option.some.inj hread).symm
  · exact absurd (Word.isPlain_of_mem_mnemonic hmem) (by decide)

end Chip8
