import Chip8.Machine.Dump
import Chip8.Proofs.Text.Numerals

/-!
# Reading a register dump

The words of a dump are its fields. Each is a label and a numeral with a colon between them, and so no
field needs a fixed width to be found: all values are read off the text again.
-/

namespace Chip8.Dump

/-! ## Fields -/

/-- A field of a dump. -/
structure Field where
  /-- What stands before the colon. -/
  label : String
  /-- The base of the numeral behind it. -/
  base : Nat
  /-- The largest value. -/
  limit : Nat

namespace Field

/-- The text of a field with these digits. -/
def write (f : Field) (numeral : String) : List Char := f.label.toList ++ ':' :: numeral.toList

/-- Reads the value of a field. -/
def read? (f : Field) (word : List Char) : Option Nat :=
  (word.dropPrefix? (f.label.toList ++ [':'])).bind fun digits =>
    (Text.readDigits f.base f.limit .tooLarge 0 digits).toOption

/-- Reads the values of several fields, one from each word. -/
def readAll? : List Field → List (List Char) → Option (List Nat)
  | [], [] => some []
  | f :: fields, word :: words => do
    let value ← f.read? word
    let values ← readAll? fields words
    return value :: values
  | _, _ => none

variable {alphabet : List Char} {width n : Nat}

theorem read?_write (f : Field) (h : Text.Legible alphabet f.base) (hfit : n < f.base ^ width)
    (hle : n ≤ f.limit) :
    f.read? (f.write (.ofList (Numeral.digits alphabet f.base width n))) = some n := by
  have hprefix : (f.label.toList ++ [':'] ++ Numeral.digits alphabet f.base width n).dropPrefix?
      (f.label.toList ++ [':']) = some (Numeral.digits alphabet f.base width n) :=
    List.dropPrefix?_append_of_beq _ (beq_self_eq_true _)
  rw [read?, write, String.toList_ofList, List.append_cons, hprefix, Option.bind_some,
    Text.readDigits_digits h hfit hle]
  rfl

theorem isWord_write (f : Field) (hlabel : f.label.toList.any Text.isBlank = false)
    (halphabet : ('?' :: alphabet).any Text.isBlank = false) (base width n : Nat) :
    Text.IsWord (f.write (.ofList (Numeral.digits alphabet base width n))) := by
  refine ⟨by simp [write], ?_⟩
  rw [write, String.toList_ofList]
  intro c hc
  rw [← Bool.not_eq_true]
  rcases List.mem_append.mp hc with hc | hc
  · exact List.any_eq_false.mp hlabel c hc
  · rcases List.mem_cons.mp hc with rfl | hc
    · exact Bool.false_ne_true
    · exact List.any_eq_false.mp halphabet c (Numeral.mem_of_mem_digits hc)

end Field

/-- A field with a value and the numeral that it is written with. -/
structure Entry where
  /-- The field. -/
  field : Field
  /-- The digits. -/
  numeral : String
  /-- The value. -/
  value : Nat

namespace Entry

/-- The text of an entry. -/
def word (e : Entry) : List Char := e.field.write e.numeral

/-- An entry whose text is a word from which its value can be read. -/
structure Readable (e : Entry) : Prop where
  isWord : Text.IsWord e.word
  read : e.field.read? e.word = some e.value

theorem readAll?_map {entries : List Entry} (h : ∀ e ∈ entries, e.Readable) :
    Field.readAll? (entries.map field) (entries.map word) = some (entries.map value) := by
  induction entries with
  | nil => rfl
  | cons e entries ih =>
    obtain ⟨he, hrest⟩ := List.forall_mem_cons.mp h
    simp only [List.map_cons, Field.readAll?, he.read, ih hrest]
    rfl

/-- An entry is readable if its numeral has digits enough for the value. -/
theorem Readable.of_digits {label : String} {alphabet : List Char} {base limit width n : Nat}
    (hlabel : label.toList.any Text.isBlank = false)
    (halphabet : ('?' :: alphabet).any Text.isBlank = false)
    (h : Text.Legible alphabet base) (hfit : n < base ^ width) (hle : n ≤ limit) :
    Readable ⟨⟨label, base, limit⟩, .ofList (Numeral.digits alphabet base width n), n⟩ :=
  ⟨Field.isWord_write _ hlabel halphabet base width n, Field.read?_write _ h hfit hle⟩

end Entry

/-! ## The whole dump -/

/-- The field of a general register. -/
def registerField (x : RegisterIndex) : Field := ⟨Numeral.hexCapital 1 x, 16, 0xFF⟩

/-- The fields of a dump, in order. -/
def layout : List Field :=
  [⟨"pc", 16, 0xFFFF⟩, ⟨"sp", 10, 0xFF⟩, ⟨"i", 16, 0xFFFF⟩, ⟨"dt", 10, 0xFF⟩, ⟨"st", 10, 0xFF⟩,
    ⟨"km", 2, 0xFFFF⟩] ++ (List.finRange 16).map registerField

/-- The dump that shows these values, in the order of the fields. -/
def ofValues? : List Nat → Option Dump
  | pc :: stackPointer :: index :: delay :: sound :: keys :: registers => some
    { pc := .ofNat pc
      stackPointer := .ofNat stackPointer
      index := .ofNat index
      timers := ⟨.ofNat delay, .ofNat sound⟩
      keys := .ofNat keys
      registers := Registers.zero.overwrite (registers.map UInt8.ofNat) }
  | _ => none

/-- Reads a dump. -/
def ofText? (text : String) : Option Dump :=
  (Field.readAll? layout (Text.words text.toList)).bind ofValues?

/-- The entries of the first line. -/
def headEntries (d : Dump) : List Entry :=
  [⟨⟨"pc", 16, 0xFFFF⟩, Numeral.hexSmall 4 d.pc.toNat, d.pc.toNat⟩,
    ⟨⟨"sp", 10, 0xFF⟩, Numeral.decimalPadded 2 d.stackPointer.toNat, d.stackPointer.toNat⟩,
    ⟨⟨"i", 16, 0xFFFF⟩, Numeral.hexSmall 4 d.index.toNat, d.index.toNat⟩,
    ⟨⟨"dt", 10, 0xFF⟩, Numeral.decimalPadded 2 d.timers.delay.toNat, d.timers.delay.toNat⟩,
    ⟨⟨"st", 10, 0xFF⟩, Numeral.decimalPadded 2 d.timers.sound.toNat, d.timers.sound.toNat⟩,
    ⟨⟨"km", 2, 0xFFFF⟩, Numeral.binary 16 d.keys.toNat, d.keys.toNat⟩]

/-- The entry of a general register. -/
def registerEntry (d : Dump) (x : RegisterIndex) : Entry :=
  ⟨registerField x, Numeral.hexSmall 2 (d.registers.get x).toNat, (d.registers.get x).toNat⟩

/-- The entries of a dump, in order. -/
def entries (d : Dump) : List Entry := d.headEntries ++ (List.finRange 16).map d.registerEntry

theorem readable_hex (label : String) (hlabel : label.toList.any Text.isBlank = false)
    (n : UInt16) : Entry.Readable ⟨⟨label, 16, 0xFFFF⟩, Numeral.hexSmall 4 n.toNat, n.toNat⟩ :=
  .of_digits hlabel (by decide) (by decide) n.toNat_lt (Nat.le_of_lt_succ n.toNat_lt)

theorem readable_decimal (label : String) (hlabel : label.toList.any Text.isBlank = false)
    (n : UInt8) : Entry.Readable ⟨⟨label, 10, 0xFF⟩, Numeral.decimalPadded 2 n.toNat, n.toNat⟩ := by
  have hfit : n.toNat < 10 ^ max 2 (Numeral.decimalWidth n.toNat) :=
    Nat.lt_of_lt_of_le (Numeral.lt_pow_decimalWidth n.toNat)
      (Nat.pow_le_pow_right (by decide) (Nat.le_max_right _ _))
  exact .of_digits hlabel (by decide) (by decide) hfit (Nat.le_of_lt_succ n.toNat_lt)

theorem readable_of_mem_entries (d : Dump) {e : Entry} (h : e ∈ d.entries) : e.Readable := by
  rw [entries, List.mem_append, List.mem_map] at h
  rcases h with h | ⟨x, -, rfl⟩
  · simp only [headEntries, List.mem_cons, List.not_mem_nil, or_false] at h
    rcases h with rfl | rfl | rfl | rfl | rfl | rfl
    · exact readable_hex "pc" (by decide) d.pc
    · exact readable_decimal "sp" (by decide) d.stackPointer
    · exact readable_hex "i" (by decide) d.index
    · exact readable_decimal "dt" (by decide) d.timers.delay
    · exact readable_decimal "st" (by decide) d.timers.sound
    · exact .of_digits (by decide) (by decide) (by decide) d.keys.toNat_lt
        (Nat.le_of_lt_succ d.keys.toNat_lt)
  · have hlabel : ∀ x : RegisterIndex, (Numeral.hexCapital 1 x).toList.any Text.isBlank = false := by
      decide
    exact .of_digits (hlabel x) (by decide) (by decide) (d.registers.get x).toNat_lt
      (Nat.le_of_lt_succ (d.registers.get x).toNat_lt)

theorem toList_head (d : Dump) :
    d.head.toList = [' '].intercalate (d.headEntries.map Entry.word) := by
  unfold head
  simp [headEntries, Entry.word, Field.write]

theorem toList_register (d : Dump) (x : RegisterIndex) :
    (d.register x).toList = (d.registerEntry x).word := by
  simp [register, registerEntry, registerField, Entry.word, Field.write]

theorem toList_text (d : Dump) :
    d.text.toList = [' '].intercalate (d.headEntries.map Entry.word) ++
      '\n' :: [' '].intercalate (((List.finRange 16).map d.registerEntry).map Entry.word) := by
  have hregisters : ((List.finRange 16).map d.register).map String.toList =
      ((List.finRange 16).map d.registerEntry).map Entry.word := by
    rw [List.map_map, List.map_map]
    exact List.map_congr_left fun x _ => d.toList_register x
  have hend : "\n".toList = ['\n'] := rfl
  have hblank : " ".toList = [' '] := rfl
  rw [text, String.toList_append, String.toList_append, toList_head, String.toList_intercalate,
    hregisters, hend, hblank, List.append_assoc, List.singleton_append]

/-- A dump begins with the label of the program counter. -/
theorem exists_toList_text (d : Dump) : ∃ rest, d.text.toList = 'p' :: rest := by
  have hlabel : "pc".toList = ['p', 'c'] := rfl
  rw [toList_text, headEntries, List.map_cons, List.map_cons, List.intercalate_cons_cons, Entry.word,
    Field.write, hlabel]
  exact ⟨_, rfl⟩

/-- The words of a dump are its entries. -/
theorem words_text (d : Dump) : Text.words d.text.toList = d.entries.map Entry.word := by
  have hword (e : Entry) (he : e ∈ d.entries) : Text.IsWord e.word :=
    (d.readable_of_mem_entries he).isWord
  rw [toList_text, Text.words_append_blank rfl, Text.words_intercalate, Text.words_intercalate,
    entries, List.map_append]
  · intro word h
    obtain ⟨e, he, rfl⟩ := List.mem_map.mp h
    exact hword e (List.mem_append_right _ he)
  · intro word h
    obtain ⟨e, he, rfl⟩ := List.mem_map.mp h
    exact hword e (List.mem_append_left _ he)

theorem overwrite_get (contents r : Registers) :
    contents.overwrite (((List.finRange 16).map fun x => (r.get x).toNat).map UInt8.ofNat) = r := by
  apply Vector.ext
  intro k hk
  have hget := contents.get_overwrite
    (((List.finRange 16).map fun x => (r.get x).toNat).map UInt8.ofNat) ⟨k, hk⟩
  rw [List.map_map, List.getElem?_map, List.getElem?_eq_getElem (by simpa using hk),
    List.getElem_finRange, Option.map_some, Option.getD_some, Function.comp_apply,
    UInt8.ofNat_toNat] at hget
  rw [List.map_map]
  exact hget

/-- A dump is made up again of the values of its entries. -/
theorem ofValues?_entries (d : Dump) : ofValues? (d.entries.map Entry.value) = some d := by
  have hvalues : d.entries.map Entry.value =
      d.pc.toNat :: d.stackPointer.toNat :: d.index.toNat :: d.timers.delay.toNat ::
        d.timers.sound.toNat :: d.keys.toNat ::
          (List.finRange 16).map fun x => (d.registers.get x).toNat := by
    rw [entries, List.map_append, List.map_map]
    rfl
  rw [hvalues, ofValues?, overwrite_get]
  simp only [UInt8.ofNat_toNat, UInt16.ofNat_toNat]

/-- Everything that a dump shows is read off its text. -/
theorem ofText?_text (d : Dump) : ofText? d.text = some d := by
  have hlayout : layout = d.entries.map Entry.field := by
    rw [entries, List.map_append, List.map_map]
    rfl
  rw [ofText?, words_text, hlayout, Entry.readAll?_map fun _ => d.readable_of_mem_entries,
    Option.bind_some, ofValues?_entries]

end Chip8.Dump

/-! ## Main statement -/

namespace Chip8

/-- One reader finds the program counter, the stack pointer, the index register, both timers, the keys
and the general registers in the dump of every machine. So two machines have the same dump exactly if
they agree on all of these. -/
theorem dump_shows_all_registers :
    (∀ m : Machine, Dump.ofText? m.dump.text =
      some ⟨m.pc, m.stack.pointer, m.index, m.timers, m.keys, m.registers⟩) ∧
    ∀ m n : Machine, m.dump.text = n.dump.text ↔
      m.pc = n.pc ∧ m.stack.pointer = n.stack.pointer ∧ m.index = n.index ∧
      m.timers.delay = n.timers.delay ∧ m.timers.sound = n.timers.sound ∧ m.keys = n.keys ∧
      ∀ x, m.reg x = n.reg x := by
  refine ⟨fun m => m.dump.ofText?_text, fun m n => ?_⟩
  constructor
  · intro htext
    have hdump : m.dump = n.dump := by
      rw [← Option.some_inj, ← Dump.ofText?_text, htext, Dump.ofText?_text]
    obtain ⟨hpc, hpointer, hindex, htimers, hkeys, hregisters⟩ := Dump.mk.inj hdump
    exact ⟨hpc, hpointer, hindex, congrArg Timers.delay htimers, congrArg Timers.sound htimers, hkeys,
      fun x => congrArg (Vector.get · x) hregisters⟩
  · rintro ⟨hpc, hpointer, hindex, hdelay, hsound, hkeys, hregisters⟩
    have htimers : m.timers = n.timers := congrArg₂ Timers.mk hdelay hsound
    have hregs : m.registers = n.registers := Vector.ext fun k hk => hregisters ⟨k, hk⟩
    rw [Machine.dump, Machine.dump, hpc, hpointer, hindex, htimers, hkeys, hregs]

end Chip8
