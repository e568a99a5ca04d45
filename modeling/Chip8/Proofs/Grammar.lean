import Chip8.Controller
import Chip8.Proofs.Text.Quoting

/-!
# The grammar of the controller language

What a line of the controller stands for, and what is wrong with it if it stands for nothing, is told
by its words. The grammar lists all that can come of words, one rule for each: the commands, the key
mask with its base marks and its sign, and every way in which a line is refused. Reading a line follows
the grammar, which therefore is complete and leaves no choice. The word that is to blame for a refusal is
read off its message.
-/

namespace Chip8.Controller

open Text

/-! ## Base marks -/

/-- A number is bare when no `0x` stands before it any more. -/
def IsBare (word bare : List Char) : Prop :=
  (∃ count, word = (List.replicate count ['0', 'x']).flatten ++ bare) ∧ ¬['0', 'x'] <+: bare

theorem isBare_dropBaseMarks (word : List Char) : IsBare word (dropBaseMarks word) := by
  fun_induction dropBaseMarks word with
  | case1 rest ih =>
    obtain ⟨⟨count, hcount⟩, hbare⟩ := ih
    refine ⟨⟨count + 1, ?_⟩, hbare⟩
    rw [List.replicate_succ, List.flatten_cons, List.append_assoc, ← hcount]
    rfl
  | case2 text hmark =>
    refine ⟨⟨0, rfl⟩, ?_⟩
    rintro ⟨rest, hrest⟩
    exact hmark rest hrest.symm

theorem dropBaseMarks_eq_of_isBare {word bare : List Char} (h : IsBare word bare) :
    dropBaseMarks word = bare := by
  obtain ⟨⟨count, rfl⟩, hbare⟩ := h
  induction count with
  | zero =>
    show dropBaseMarks bare = bare
    unfold dropBaseMarks
    split
    · next rest => exact absurd ⟨rest, rfl⟩ hbare
    · rfl
  | succ count ih =>
    rw [List.replicate_succ, List.flatten_cons, List.append_assoc]
    exact ih

/-! ## The rules -/

/-- The words that name a command without an argument. -/
def plainVerbs : List (List Char × Command) :=
  [(['p'], .pause), (['p', 'a', 'u', 's', 'e'], .pause),
    (['s'], .step), (['s', 't', 'e', 'p'], .step),
    (['q'], .close), (['q', 'u', 'i', 't'], .close)]

/-- The words that name the command with a key mask. -/
def keyVerbs : List (List Char) := [['k'], ['k', 'e', 'y', 's']]

/-- A word stands for a key mask, or is refused as one. Base marks are passed over, one plus sign is
allowed behind them, and then there is a hexadecimal number of sixteen bits. -/
def ReadsMask (word : List Char) (r : Except IntegerError Nat) : Prop :=
  ∃ bare, IsBare word bare ∧ ReadsNatural 0xFFFF bare r

/-- What comes of the words of a line. -/
inductive Reads : List (List Char) → Except LineError (Option Command) → Prop
  /-- A blank line asks for nothing. -/
  | blank : Reads [] (.ok none)
  /-- A command without an argument. -/
  | plain {verb : List Char} {command : Command} (h : (verb, command) ∈ plainVerbs) :
      Reads [verb] (.ok (some command))
  /-- An argument where there is none allowed. -/
  | plainExtra {verb extra : List Char} {command : Command} {rest : List (List Char)}
      (h : (verb, command) ∈ plainVerbs) :
      Reads (verb :: extra :: rest) (.error (.unexpectedArgument extra))
  /-- A change of the keys without a mask. -/
  | missingMask {verb : List Char} (h : verb ∈ keyVerbs) : Reads [verb] (.error .missingMask)
  /-- A change of the keys. -/
  | keys {verb word : List Char} {mask : KeyMask} (h : verb ∈ keyVerbs)
      (hmask : ReadsMask word (.ok mask.toNat)) : Reads [verb, word] (.ok (some (.setKeys mask)))
  /-- A second argument behind a mask. -/
  | keysExtra {verb word extra : List Char} {mask : KeyMask} {rest : List (List Char)}
      (h : verb ∈ keyVerbs) (hmask : ReadsMask word (.ok mask.toNat)) :
      Reads (verb :: word :: extra :: rest) (.error (.unexpectedArgument extra))
  /-- A bad mask, whatever stands behind it. -/
  | invalidMask {verb word : List Char} {reason : IntegerError} {rest : List (List Char)}
      (h : verb ∈ keyVerbs) (hmask : ReadsMask word (.error reason)) :
      Reads (verb :: word :: rest) (.error (.invalidMask word reason))
  /-- No command at all, whatever stands behind it. -/
  | unknown {verb : List Char} {rest : List (List Char)}
      (hplain : ∀ command, (verb, command) ∉ plainVerbs) (hkeys : verb ∉ keyVerbs) :
      Reads (verb :: rest) (.error (.unknownCommand verb))

/-! ## Reading follows the rules -/

variable {verb word : List Char} {arguments others : List (List Char)}

theorem ofWords_of_plain {command : Command} (h : (verb, command) ∈ plainVerbs) :
    ofWords (verb :: arguments) = some <$> finish command arguments := by
  simp only [plainVerbs, List.mem_cons, List.not_mem_nil, Prod.mk.injEq, or_false] at h
  rcases h with ⟨rfl, rfl⟩ | ⟨rfl, rfl⟩ | ⟨rfl, rfl⟩ | ⟨rfl, rfl⟩ | ⟨rfl, rfl⟩ | ⟨rfl, rfl⟩ <;> rfl

theorem ofWords_of_bareKeys (h : verb ∈ keyVerbs) : ofWords [verb] = .error .missingMask := by
  simp only [keyVerbs, List.mem_cons, List.not_mem_nil, or_false] at h
  rcases h with rfl | rfl <;> rfl

theorem ofWords_of_keys (h : verb ∈ keyVerbs) :
    ofWords (verb :: word :: others) =
      some <$> (readMask word >>= fun mask => finish (.setKeys mask) others) := by
  simp only [keyVerbs, List.mem_cons, List.not_mem_nil, or_false] at h
  rcases h with rfl | rfl <;> rfl

theorem ofWords_of_unknown (hplain : ∀ command, (verb, command) ∉ plainVerbs)
    (hkeys : verb ∉ keyVerbs) : ofWords (verb :: arguments) = .error (.unknownCommand verb) := by
  have hpause := hplain .pause
  have hstep := hplain .step
  have hclose := hplain .close
  simp only [plainVerbs, keyVerbs, List.mem_cons, List.not_mem_nil, Prod.mk.injEq, reduceCtorEq,
    and_true, and_false, or_false, false_or] at hpause hstep hclose hkeys
  simp only [ofWords, if_neg hpause, if_neg hstep, if_neg hclose, if_neg hkeys]
  rfl

theorem readMask_of_ok {mask : KeyMask} (h : ReadsMask word (.ok mask.toNat)) :
    readMask word = .ok mask := by
  obtain ⟨bare, hbare, hnumber⟩ := h
  rw [readMask, dropBaseMarks_eq_of_isBare hbare, readNatural_eq_iff.mpr hnumber]
  exact congrArg Except.ok UInt16.ofNat_toNat

theorem readMask_of_error {reason : IntegerError} (h : ReadsMask word (.error reason)) :
    readMask word = .error (.invalidMask word reason) := by
  obtain ⟨bare, hbare, hnumber⟩ := h
  rw [readMask, dropBaseMarks_eq_of_isBare hbare, readNatural_eq_iff.mpr hnumber]

/-- A word stands for a mask or is refused, and no mask has more than sixteen bits. -/
theorem readsMask_cases (word : List Char) :
    (∃ mask : KeyMask, ReadsMask word (.ok mask.toNat)) ∨ ∃ reason, ReadsMask word (.error reason) := by
  have hbare := isBare_dropBaseMarks word
  have hnumber := readNatural_eq_iff.mp (rfl : readNatural 16 0xFFFF (dropBaseMarks word) = _)
  rcases hr : readNatural 16 0xFFFF (dropBaseMarks word) with reason | value
  · exact Or.inr ⟨reason, _, hbare, hr ▸ hnumber⟩
  · rw [hr] at hnumber
    have hle : value ≤ 0xFFFF := hnumber.le
    have hvalue : value.toUInt16.toNat = value := Nat.mod_eq_of_lt (Nat.lt_succ_of_le hle)
    refine Or.inl ⟨value.toUInt16, _, hbare, ?_⟩
    rwa [hvalue]

theorem ofWords_of_reads {ws : List (List Char)} {r : Except LineError (Option Command)}
    (h : Reads ws r) : ofWords ws = r := by
  cases h with
  | blank => rfl
  | plain h | plainExtra h => exact ofWords_of_plain h
  | missingMask h => exact ofWords_of_bareKeys h
  | keys h hmask | keysExtra h hmask =>
    rw [ofWords_of_keys h, readMask_of_ok hmask]
    rfl
  | invalidMask h hmask =>
    rw [ofWords_of_keys h, readMask_of_error hmask]
    rfl
  | unknown hplain hkeys => exact ofWords_of_unknown hplain hkeys

theorem exists_reads (ws : List (List Char)) : ∃ r, Reads ws r := by
  rcases ws with _ | ⟨verb, arguments⟩
  · exact ⟨_, .blank⟩
  · by_cases hplain : ∃ command, (verb, command) ∈ plainVerbs
    · obtain ⟨command, h⟩ := hplain
      rcases arguments with _ | ⟨extra, rest⟩
      · exact ⟨_, .plain h⟩
      · exact ⟨_, .plainExtra h⟩
    · by_cases hkeys : verb ∈ keyVerbs
      · rcases arguments with _ | ⟨word, others⟩
        · exact ⟨_, .missingMask hkeys⟩
        · rcases readsMask_cases word with ⟨mask, hmask⟩ | ⟨reason, hmask⟩
          · rcases others with _ | ⟨extra, rest⟩
            · exact ⟨_, .keys hkeys hmask⟩
            · exact ⟨_, .keysExtra hkeys hmask⟩
          · exact ⟨_, .invalidMask hkeys hmask⟩
      · exact ⟨_, .unknown (not_exists.mp hplain) hkeys⟩

/-! ## Messages -/

theorem LineError.quotes_unknownCommand (word : List Char) :
    Quotes (unknownCommand word).message "unknown command " word "" := by
  have hquotes := quotes_quoted "unknown command " word "" (by decide) rfl
  rwa [String.append_empty] at hquotes

theorem LineError.quotes_unexpectedArgument (word : List Char) :
    Quotes (unexpectedArgument word).message "unexpected argument " word "" := by
  have hquotes := quotes_quoted "unexpected argument " word "" (by decide) rfl
  rwa [String.append_empty] at hquotes

theorem LineError.quotes_invalidMask (word : List Char) (reason : IntegerError) :
    Quotes (invalidMask word reason).message "invalid key bitmask " word (": " ++ reason.message) := by
  have hreason : (": " ++ reason.message).toList.all isVisible = true := by
    cases reason <;> decide
  have hquotes := quotes_quoted "invalid key bitmask " word _ (by decide) hreason
  rwa [← String.append_assoc] at hquotes

/-! ## Main statement -/

/-- Reading a line follows the grammar: what comes of it is what a rule gives for its words, the pieces
between its blanks that are not empty, and nothing else. Every refusal quotes the word that is to blame
as it was typed, and a mask is refused with the reason for it. -/
theorem parse_accepts_exactly_grammar (line : List Char) :
    (∀ r, parse line = r ↔ Reads ((line.splitOnP isBlank).filter (· ≠ [])) r) ∧
    LineError.missingMask.message = "missing key bitmask" ∧
    ∀ word, Quotes (LineError.unknownCommand word).message "unknown command " word "" ∧
      Quotes (LineError.unexpectedArgument word).message "unexpected argument " word "" ∧
      Quotes (LineError.invalidMask word .empty).message "invalid key bitmask " word
        ": cannot parse integer from empty string" ∧
      Quotes (LineError.invalidMask word .invalidDigit).message "invalid key bitmask " word
        ": invalid digit found in string" ∧
      Quotes (LineError.invalidMask word .tooLarge).message "invalid key bitmask " word
        ": number too large to fit in target type" := by
  refine ⟨fun r => ?_, rfl, fun word => ⟨LineError.quotes_unknownCommand word,
    LineError.quotes_unexpectedArgument word, LineError.quotes_invalidMask word .empty,
    LineError.quotes_invalidMask word .invalidDigit, LineError.quotes_invalidMask word .tooLarge⟩⟩
  rw [← words_eq_filter_splitOnP]
  refine ⟨?_, ofWords_of_reads⟩
  rintro rfl
  obtain ⟨r, hr⟩ := exists_reads (words line)
  rwa [parse, ofWords_of_reads hr]

/-- A quotation mark and a control character can be told in a message. -/
example : (LineError.invalidMask ['7', '"', '\x07'] .invalidDigit).message =
    "invalid key bitmask \"7\\\"\\u\x7b7\x7d\": invalid digit found in string" := by
  decide +kernel

end Chip8.Controller
