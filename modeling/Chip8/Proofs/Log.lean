import Chip8.Log
import Chip8.Proofs.Disassembly
import Chip8.Proofs.Dump

/-!
# Reading the log back

A line of the log begins with its level. What a line shows of the machine is read off it: the instruction
that was executed and where, the registers, or the address at which the machine stands. A line about
anything else shows nothing, since it begins in another way.
-/

namespace Chip8

/-! ## Levels -/

/-- The lines of one level, in order. -/
def linesAt (level : Level) (lines : List String) : List String :=
  lines.filter fun line => (level.text ++ " ").toList.isPrefixOf line.toList

theorem linesAt_append (level : Level) (lines more : List String) :
    linesAt level (lines ++ more) = linesAt level lines ++ linesAt level more :=
  List.filter_append ..

theorem Event.toList_line (e : Event) :
    e.line.toList = (e.level.text ++ " ").toList ++ e.text.toList := by
  rw [line, String.toList_append]

/-- Lines tell their levels apart. -/
theorem isPrefixOf_line_iff (level : Level) (e : Event) :
    (level.text ++ " ").toList.isPrefixOf e.line.toList = true ↔ e.level = level := by
  have hclash : ∀ a b : Level, (a.text ++ " ").toList <+: (b.text ++ " ").toList → b = a := by
    intro a b
    cases a <;> cases b <;> decide
  rw [List.isPrefixOf_iff_prefix, e.toList_line]
  constructor
  · intro h
    rcases List.prefix_or_prefix_of_prefix h (List.prefix_append _ _) with h | h
    · exact hclash _ _ h
    · exact (hclash _ _ h).symm
  · rintro rfl
    exact List.prefix_append _ _

theorem linesAt_line_of_eq {level : Level} {e : Event} (h : e.level = level) :
    linesAt level [e.line] = [e.line] :=
  List.filter_cons_of_pos ((isPrefixOf_line_iff level e).mpr h)

theorem linesAt_line_of_ne {level : Level} {e : Event} (h : e.level ≠ level) :
    linesAt level [e.line] = [] :=
  List.filter_cons_of_neg fun hprefix => h ((isPrefixOf_line_iff level e).mp hprefix)

theorem Log.lines_add {log : Log} (h : log.recording = true) (e : Event) :
    (log.add e).lines = log.lines ++ [e.line] := by
  rw [lines, events_add h, List.map_append]
  rfl

/-! ## What a line shows -/

/-- What stands in a line behind its beginning. -/
def behind? (start line : String) : Option (List Char) := line.toList.dropPrefix? start.toList

/-- What a line of the log shows of a machine. -/
inductive Shown
  /-- The word that was executed at this address. -/
  | executed (pc : UInt16) (word : Word)
  /-- The registers. -/
  | registers (dump : Dump)
  /-- The word at this address, which is not an instruction. -/
  | halted (pc : UInt16) (word : Word)
  /-- The address at which the machine was left. -/
  | stopped (pc : UInt16)

namespace Shown

/-- Reads four digits, and gives what stands behind them as well. -/
def readWord? (text : List Char) : Option (Word × List Char) :=
  (Text.readDigits 16 0xFFFF .tooLarge 0 (text.take 4)).toOption.map fun n => (.ofNat n, text.drop 4)

/-- Reads an address and a word with a text between them, and gives what stands behind as well. -/
def readPair? (between : String) (text : List Char) : Option (UInt16 × Word × List Char) := do
  let (pc, rest) ← readWord? text
  let (word, rest) ← (rest.dropPrefix? between.toList).bind readWord?
  return (pc, word, rest)

/-- Reads an address and a word with its mnemonic. -/
def readExecuted? (text : List Char) : Option Shown := do
  let (pc, word, rest) ← readPair? " [" text
  let mnemonic ← rest.dropPrefix? "] ".toList
  if Word.ofMnemonic? mnemonic = some word then some (.executed pc word) else none

/-- Reads the registers. -/
def readRegisters? (text : List Char) : Option Shown :=
  (Dump.ofText? (.ofList text)).map .registers

/-- Reads an address and a word that is not an instruction. -/
def readHalted? (text : List Char) : Option Shown := do
  let (pc, word, rest) ← readPair? ": unrecognised opcode 0x" text
  if rest = [] then some (.halted pc word) else none

/-- Reads an address with a bracket behind it. -/
def readStopped? (text : List Char) : Option Shown := do
  let (pc, rest) ← readWord? text
  if rest = [']'] then some (.stopped pc) else none

/-- Reads what a line shows. -/
def ofLine? (line : String) : Option Shown :=
  ((behind? "TRACE " line).bind fun text => (readExecuted? text).or (readRegisters? text)).or
    (((behind? "ERROR Halting at " line).bind readHalted?).or
      ((behind? "INFO Scheduler stopped [pc: " line).bind readStopped?))

/-- The address at which the machine stands. -/
def address? : Shown → Option UInt16
  | .executed pc _ | .halted pc _ | .stopped pc => some pc
  | .registers _ => none

/-- The program counter among the registers. -/
def dumped? : Shown → Option UInt16
  | .registers dump => some dump.pc
  | .executed _ _ | .halted _ _ | .stopped _ => none

end Shown

/-- The address at which the machine stands by a line. -/
def lineAddress? (line : String) : Option UInt16 := (Shown.ofLine? line).bind Shown.address?

/-- The program counter among the registers in a line. -/
def lineDumped? (line : String) : Option UInt16 := (Shown.ofLine? line).bind Shown.dumped?

/-- What there is to show of an event. -/
def Event.shown? : Event → Option Shown
  | .executed instruction => some (.executed instruction.pc instruction.word)
  | .registers dump => some (.registers dump)
  | .halted pc word => some (.halted pc word)
  | .stopped pc => some (.stopped pc)
  | _ => none

/-! ## The lines of events -/

theorem Event.line_executed (pc : UInt16) (word : Word) :
    (Event.executed ⟨pc, word⟩).line =
      "TRACE " ++ Numeral.hexCapital 4 pc.toNat ++ " [" ++ Numeral.hexCapital 4 word.toNat ++ "] " ++
        word.mnemonic := by
  have hlevel : "TRACE" ++ " " = "TRACE " := rfl
  show "TRACE" ++ " " ++ (Numeral.hexCapital 4 pc.toNat ++ " [" ++ Numeral.hexCapital 4 word.toNat ++
    "] " ++ word.mnemonic) = _
  simp only [hlevel, String.append_assoc]

theorem Event.line_halted (pc : UInt16) (word : Word) :
    (Event.halted pc word).line =
      "ERROR Halting at " ++ Numeral.hexCapital 4 pc.toNat ++ ": unrecognised opcode 0x" ++
        Numeral.hexCapital 4 word.toNat := by
  have hlevel : "ERROR" ++ " " ++ "Halting at " = "ERROR Halting at " := rfl
  have hcolon : ": " ++ "unrecognised opcode 0x" = ": unrecognised opcode 0x" := rfl
  show "ERROR" ++ " " ++ ("Halting at " ++ Numeral.hexCapital 4 pc.toNat ++ ": " ++
    ("unrecognised opcode 0x" ++ Numeral.hexCapital 4 word.toNat)) = _
  rw [← hlevel, ← hcolon]
  simp only [String.append_assoc]

theorem Event.line_stopped (pc : UInt16) :
    (Event.stopped pc).line =
      "INFO Scheduler stopped [pc: " ++ Numeral.hexCapital 4 pc.toNat ++ "]" := by
  have hlevel : "INFO" ++ " " ++ "Scheduler stopped [pc: " = "INFO Scheduler stopped [pc: " := rfl
  show "INFO" ++ " " ++ ("Scheduler stopped [pc: " ++ Numeral.hexCapital 4 pc.toNat ++ "]") = _
  rw [← hlevel]
  simp only [String.append_assoc]

/-! ## Beginnings of lines -/

theorem behind?_of_toList {start line : String} {rest : List Char}
    (h : line.toList = start.toList ++ rest) : behind? start line = some rest := by
  rw [behind?, h]
  exact List.dropPrefix?_append_of_beq rest (beq_self_eq_true _)

theorem prefix_of_behind? {start line : String} {rest : List Char}
    (h : behind? start line = some rest) : start.toList <+: line.toList := by
  obtain ⟨first, hline, hfirst⟩ := List.dropPrefix?_eq_some_iff.mp h
  rw [hline, eq_of_beq hfirst]
  exact List.prefix_append _ _

namespace Event

variable {e : Event}

/-- No line begins with another level than its own. -/
theorem behind?_line_of_level (level : Level) (h : e.level ≠ level) (start : String) :
    behind? (level.text ++ " " ++ start) e.line = none := by
  rw [Option.eq_none_iff_forall_ne_some]
  intro rest hrest
  have hprefix := prefix_of_behind? hrest
  rw [String.toList_append] at hprefix
  have hlevel := (isPrefixOf_line_iff level e).mp
    (List.isPrefixOf_iff_prefix.mpr ((List.prefix_append _ _).trans hprefix))
  exact h hlevel

/-- Nor does the text of an event begin in two ways. -/
theorem behind?_line_of_text (level : Level) (h : e.level = level) (start : String)
    {opening rest : String} (htext : e.text = opening ++ rest)
    (hlong : ¬start.toList <+: opening.toList) (hshort : ¬opening.toList <+: start.toList) :
    behind? (level.text ++ " " ++ start) e.line = none := by
  rw [Option.eq_none_iff_forall_ne_some]
  intro tail htail
  have hprefix := prefix_of_behind? htail
  have hrest : e.text.toList = opening.toList ++ rest.toList := by rw [htext, String.toList_append]
  rw [toList_line, h, hrest, String.toList_append, List.prefix_append_right_inj] at hprefix
  rcases List.prefix_or_prefix_of_prefix hprefix (List.prefix_append _ _) with hclash | hclash
  · exact hlong hclash
  · exact hshort hclash

theorem behind?_trace (h : e.level ≠ .trace) : behind? "TRACE " e.line = none :=
  behind?_line_of_level .trace h ""

theorem behind?_halting (h : e.level ≠ .error) : behind? "ERROR Halting at " e.line = none :=
  behind?_line_of_level .error h "Halting at "

theorem behind?_stopped (h : e.level ≠ .info) : behind? "INFO Scheduler stopped [pc: " e.line = none :=
  behind?_line_of_level .info h "Scheduler stopped [pc: "

end Event

/-! ## Reading lines back -/

namespace Shown

theorem readWord?_append (n : UInt16) (rest : List Char) :
    readWord? ((Numeral.hexCapital 4 n.toNat).toList ++ rest) = some (n, rest) := by
  have hlength : (Numeral.digits Numeral.capitals 16 4 n.toNat).length = 4 :=
    Numeral.length_digits ..
  have hread : Text.readDigits 16 0xFFFF .tooLarge 0 (Numeral.digits Numeral.capitals 16 4 n.toNat) =
      .ok n.toNat :=
    Text.readDigits_digits (by decide) n.toNat_lt (Nat.le_of_lt_succ n.toNat_lt)
  rw [readWord?, Numeral.hexCapital, String.toList_ofList, List.take_left' hlength,
    List.drop_left' hlength, hread]
  show some (UInt16.ofNat n.toNat, rest) = _
  rw [UInt16.ofNat_toNat]

theorem readPair?_append (between : String) (pc : UInt16) (word : Word) (rest : List Char) :
    readPair? between ((Numeral.hexCapital 4 pc.toNat).toList ++ (between.toList ++
      ((Numeral.hexCapital 4 word.toNat).toList ++ rest))) = some (pc, word, rest) := by
  have hbetween := List.dropPrefix?_append_of_beq ((Numeral.hexCapital 4 word.toNat).toList ++ rest)
    (beq_self_eq_true between.toList)
  simp only [readPair?, readWord?_append, hbetween, Option.bind_eq_bind, Option.bind_some]
  rfl

theorem ofLine?_executed (pc : UInt16) (word : Word) :
    ofLine? (Event.executed ⟨pc, word⟩).line = some (.executed pc word) := by
  have hline : (Event.executed ⟨pc, word⟩).line.toList =
      "TRACE ".toList ++ ((Numeral.hexCapital 4 pc.toNat).toList ++ (" [".toList ++
        ((Numeral.hexCapital 4 word.toNat).toList ++ ("] ".toList ++ word.mnemonic.toList)))) := by
    simp only [Event.line_executed, String.toList_append, List.append_assoc]
  have hmnemonic := List.dropPrefix?_append_of_beq word.mnemonic.toList
    (beq_self_eq_true "] ".toList)
  rw [ofLine?, behind?_of_toList hline, Option.bind_some, readExecuted?, readPair?_append]
  simp only [hmnemonic, Option.bind_eq_bind, Option.bind_some, Word.ofMnemonic?_mnemonic, if_true,
    Option.some_or]

theorem ofLine?_registers (dump : Dump) :
    ofLine? (Event.registers dump).line = some (.registers dump) := by
  have hline : (Event.registers dump).line.toList = "TRACE ".toList ++ dump.text.toList :=
    (Event.registers dump).toList_line
  have hexecuted : readExecuted? dump.text.toList = none := by
    obtain ⟨rest, hrest⟩ := dump.exists_toList_text
    rw [hrest]
    rfl
  rw [ofLine?, behind?_of_toList hline, Option.bind_some, hexecuted, Option.none_or, readRegisters?,
    String.ofList_toList, Dump.ofText?_text]
  rfl

theorem ofLine?_halted (pc : UInt16) (word : Word) :
    ofLine? (Event.halted pc word).line = some (.halted pc word) := by
  have hline : (Event.halted pc word).line.toList =
      "ERROR Halting at ".toList ++ ((Numeral.hexCapital 4 pc.toNat).toList ++
        (": unrecognised opcode 0x".toList ++ ((Numeral.hexCapital 4 word.toNat).toList ++ []))) := by
    simp only [Event.line_halted, String.toList_append, List.append_assoc, List.append_nil]
  have htrace : behind? "TRACE " (Event.halted pc word).line = none :=
    Event.behind?_trace (by simp [Event.level])
  rw [ofLine?, htrace, behind?_of_toList hline, Option.bind_none, Option.none_or, Option.bind_some,
    readHalted?, readPair?_append]
  rfl

theorem ofLine?_stopped (pc : UInt16) :
    ofLine? (Event.stopped pc).line = some (.stopped pc) := by
  have hline : (Event.stopped pc).line.toList =
      "INFO Scheduler stopped [pc: ".toList ++ ((Numeral.hexCapital 4 pc.toNat).toList ++ [']']) := by
    rw [Event.line_stopped, String.toList_append, String.toList_append, List.append_assoc]
    rfl
  have htrace : behind? "TRACE " (Event.stopped pc).line = none :=
    Event.behind?_trace (by simp [Event.level])
  have hhalting : behind? "ERROR Halting at " (Event.stopped pc).line = none :=
    Event.behind?_halting (by simp [Event.level])
  rw [ofLine?, htrace, hhalting, behind?_of_toList hline, Option.bind_none, Option.none_or,
    Option.bind_none, Option.none_or, Option.bind_some, readStopped?, readWord?_append]
  rfl

theorem ofLine?_eq_none_of_level {e : Event} (htrace : e.level ≠ .trace) (herror : e.level ≠ .error)
    (hinfo : e.level ≠ .info) : ofLine? e.line = none := by
  rw [ofLine?, Event.behind?_trace htrace, Event.behind?_halting herror, Event.behind?_stopped hinfo]
  rfl

theorem ofLine?_eq_none_of_text {e : Event} (h : e.level = .info) {opening rest : String}
    (htext : e.text = opening ++ rest) (hlong : ¬"Scheduler stopped [pc: ".toList <+: opening.toList)
    (hshort : ¬opening.toList <+: "Scheduler stopped [pc: ".toList) : ofLine? e.line = none := by
  have hstopped : behind? "INFO Scheduler stopped [pc: " e.line = none :=
    Event.behind?_line_of_text .info h "Scheduler stopped [pc: " htext hlong hshort
  rw [ofLine?, Event.behind?_trace (by simp [h]), Event.behind?_halting (by simp [h]), hstopped]
  rfl

/-- What a line shows is what there is to show of its event. -/
theorem ofLine?_line (e : Event) : ofLine? e.line = e.shown? := by
  cases e with
  | executed instruction => exact ofLine?_executed instruction.pc instruction.word
  | registers dump => exact ofLine?_registers dump
  | halted pc word => exact ofLine?_halted pc word
  | stopped pc => exact ofLine?_stopped pc
  | received | toggled | hungUp | undelivered | refused =>
    exact ofLine?_eq_none_of_level (by simp [Event.level]) (by simp [Event.level]) (by simp [Event.level])
  | crashed | inputClosed => rfl
  | loaded size =>
    have htext : (Event.loaded size).text =
        "Loaded ROM [size: " ++ (Numeral.decimal size ++ "]") := String.append_assoc ..
    exact ofLine?_eq_none_of_text rfl htext (by decide) (by decide)
  | started profile state =>
    have htext : (Event.started profile state).text =
        "Scheduler started [ips: " ++ (Numeral.decimal profile.ips.toNat ++ ("] [timer: " ++
          (Numeral.decimal profile.timerHz.toNat ++ (" Hz] [state: " ++ (state.text ++ "]"))))) := by
      simp only [← String.append_assoc]
      rfl
    exact ofLine?_eq_none_of_text rfl htext (by decide) (by decide)
  | ended pc =>
    have htext : (Event.ended pc).text =
        "Session ended [pc: " ++ (Event.address pc ++ "]") := String.append_assoc ..
    exact ofLine?_eq_none_of_text rfl htext (by decide) (by decide)

end Shown

theorem lineAddress?_line (e : Event) : lineAddress? e.line = e.shown?.bind Shown.address? := by
  rw [lineAddress?, Shown.ofLine?_line]

theorem lineDumped?_line (e : Event) : lineDumped? e.line = e.shown?.bind Shown.dumped? := by
  rw [lineDumped?, Shown.ofLine?_line]

end Chip8
