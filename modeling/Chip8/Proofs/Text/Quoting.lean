import Chip8.Proofs.Text.Numerals
import Chip8.Text.Quoted

/-!
# Reading quoted text back

A quoted text ends at the first quotation mark before which no backslash stands. It is read from the
left, one quoted character after another, and each of these stands for one character only. So a text is
found again between its quotation marks, whatever follows them.
-/

namespace Chip8.Text

open Numeral

/-! ## A reader -/

/-- How far a character between quotation marks has been read. -/
inductive Quotation
  /-- Nothing of it has been read. -/
  | outset
  /-- A backslash has been read. -/
  | escape
  /-- A code point has been announced. -/
  | announced
  /-- Digits of a code point have been read, which make up that value. -/
  | codePoint (value : Nat)

/-- The letters behind a backslash, each with the character that it stands for. -/
def letters : List (Char × Char) :=
  [('0', '\x00'), ('t', '\t'), ('r', '\r'), ('n', '\n'), ('"', '"'), ('\\', '\\')]

/-- Puts a character in front of a text that was read to its end. -/
def prepend (c : Char) (found : Option (List Char × List Char)) : Option (List Char × List Char) :=
  found.map fun (text, rest) => (c :: text, rest)

/-- Reads a text up to the quotation mark that ends it, and gives what stands behind that as well. -/
def unquoteFrom : Quotation → List Char → Option (List Char × List Char)
  | _, [] => none
  | .outset, c :: rest =>
    if c = '"' then some ([], rest)
    else if c = '\\' then unquoteFrom .escape rest
    else prepend c (unquoteFrom .outset rest)
  | .escape, c :: rest =>
    if c = 'u' then unquoteFrom .announced rest
    else (letters.lookup c).bind fun d => prepend d (unquoteFrom .outset rest)
  | .announced, c :: rest => if c = '\x7b' then unquoteFrom (.codePoint 0) rest else none
  | .codePoint value, c :: rest =>
    if c = '\x7d' then prepend (Char.ofNat value) (unquoteFrom .outset rest)
    else (digitValue? 16 c).bind fun d => unquoteFrom (.codePoint (value * 16 + d)) rest

/-- Reads a text between quotation marks, and gives what stands behind them as well. -/
def unquote? : List Char → Option (List Char × List Char)
  | '"' :: rest => unquoteFrom .outset rest
  | _ => none

/-! ## Quoted characters -/

/-- A character has a letter, is given by its code point, or is left as it is. -/
theorem quoteChar_cases (c : Char) :
    (∃ letter, (letter, c) ∈ letters ∧ quoteChar c = ['\\', letter]) ∨
    quoteChar c = codePoint c ∨
    quoteChar c = [c] ∧ c ≠ '"' ∧ c ≠ '\\' ∧ isUnprintable c = false := by
  have hletter : ∀ p ∈ letters, quoteChar p.2 = ['\\', p.1] := by
    decide
  by_cases hc : ∃ letter, (letter, c) ∈ letters
  · obtain ⟨letter, hmem⟩ := hc
    exact Or.inl ⟨letter, hmem, hletter _ hmem⟩
  · refine Or.inr ?_
    have hne : ∀ p ∈ letters, c ≠ p.2 := by
      rintro ⟨letter, d⟩ hmem rfl
      exact hc ⟨letter, hmem⟩
    simp only [letters, List.forall_mem_cons] at hne
    obtain ⟨hnul, htab, hreturn, hfeed, hmark, hbackslash, -⟩ := hne
    rw [quoteChar, if_neg hnul, if_neg htab, if_neg hreturn, if_neg hfeed, if_neg hmark,
      if_neg hbackslash]
    split_ifs with hcode
    · exact Or.inl rfl
    · rw [Bool.or_eq_true, not_or, Bool.not_eq_true, Bool.not_eq_true] at hcode
      exact Or.inr ⟨rfl, hmark, hbackslash, hcode.2⟩

/-- A number has no more hexadecimal digits than it needs. -/
theorem lt_pow_hexWidth (n : Nat) : n < 16 ^ hexWidth n := by
  induction n using hexWidth.induct with
  | case1 n hn =>
    rw [hexWidth, if_pos hn]
    exact hn
  | case2 n hn ih =>
    rw [hexWidth, if_neg hn, Nat.pow_succ]
    omega

theorem unquoteFrom_digits_append {width n : Nat} (hfit : n < 16 ^ width) (rest : List Char) :
    unquoteFrom (.codePoint 0) (digits smalls 16 width n ++ rest) =
      unquoteFrom (.codePoint n) rest := by
  have hlegible : Legible smalls 16 := by decide
  have hbrace : ∀ d < 16, digit smalls d ≠ '\x7d' := by decide
  induction width generalizing n rest with
  | zero =>
    obtain rfl : n = 0 := Nat.lt_one_iff.mp hfit
    rfl
  | succ width ih =>
    have hquot : n / 16 < 16 ^ width := by
      rw [Nat.pow_succ] at hfit
      omega
    have hlast : n % 16 < 16 := Nat.mod_lt n (by decide)
    rw [digits, List.append_assoc, ih hquot, List.singleton_append, unquoteFrom,
      if_neg (hbrace _ hlast), hlegible _ hlast, Option.bind_some, Nat.div_add_mod']

theorem unquoteFrom_codePoint_append (c : Char) (rest : List Char) :
    unquoteFrom .outset (codePoint c ++ rest) = prepend c (unquoteFrom .outset rest) := by
  have hdigits := unquoteFrom_digits_append (lt_pow_hexWidth c.toNat) ('\x7d' :: rest)
  rw [codePoint, List.append_assoc, List.append_assoc, List.singleton_append]
  show unquoteFrom (.codePoint 0) (digits smalls 16 (hexWidth c.toNat) c.toNat ++ '\x7d' :: rest) = _
  rw [hdigits, unquoteFrom, if_pos rfl, Char.ofNat_toNat]

/-- A character is read off the way it is quoted. -/
theorem unquoteFrom_quoteChar_append (c : Char) (rest : List Char) :
    unquoteFrom .outset (quoteChar c ++ rest) = prepend c (unquoteFrom .outset rest) := by
  have hread : ∀ p ∈ letters, p.1 ≠ 'u' ∧ letters.lookup p.1 = some p.2 := by
    decide
  rcases quoteChar_cases c with ⟨letter, hmem, hquote⟩ | hquote | ⟨hquote, hmark, hbackslash, -⟩
  · obtain ⟨hne, hlookup⟩ := hread _ hmem
    rw [hquote]
    show unquoteFrom .escape (letter :: rest) = _
    rw [unquoteFrom, if_neg hne, hlookup, Option.bind_some]
  · rw [hquote, unquoteFrom_codePoint_append]
  · rw [hquote, List.singleton_append, unquoteFrom, if_neg hmark, if_neg hbackslash]

/-! ## What is seen of a character -/

/-- A character is visible unless it is one of the control characters of ASCII. -/
def isVisible (c : Char) : Bool := decide (0x20 ≤ c.toNat) && c.toNat != 0x7F

/-- A character without a meaning of its own between quotation marks that can be told when it is
printed, as those of ASCII can be. -/
def isPlain (c : Char) : Bool :=
  c != '"' && c != '\\' &&
    (decide (0x20 ≤ c.toNat ∧ c.toNat ≤ 0x7E) || !(isCombining c || isUnprintable c))

theorem inRanges_eq_false {ranges : List (Nat × Nat)} {code : Nat}
    (h : ∀ range ∈ ranges, code < range.1 ∨ range.2 < code) : inRanges ranges code = false := by
  rw [inRanges, List.any_eq_false]
  intro range hrange
  have hout := h range hrange
  simp only [Bool.and_eq_true, decide_eq_true_eq]
  omega

theorem isCombining_or_isUnprintable_eq_false {c : Char} (h : 0x20 ≤ c.toNat ∧ c.toNat ≤ 0x7E) :
    (isCombining c || isUnprintable c) = false := by
  have hcombining : ∀ range ∈ combiningRanges, 0x7E < range.1 ∨ range.2 < 0x20 := by
    decide +kernel
  have hunprintable : ∀ range ∈ unprintableRanges, 0x7E < range.1 ∨ range.2 < 0x20 := by
    decide +kernel
  rw [Bool.or_eq_false_iff]
  constructor
  · apply inRanges_eq_false
    intro range hrange
    have hout := hcombining range hrange
    omega
  · apply inRanges_eq_false
    intro range hrange
    have hout := hunprintable range hrange
    omega

theorem isVisible_of_isUnprintable_eq_false {c : Char} (h : isUnprintable c = false) :
    isVisible c = true := by
  rw [isUnprintable, inRanges, List.any_eq_false] at h
  have hcontrol := h (0x0, 0x1F) (by decide +kernel)
  have hdelete := h (0x7F, 0xA0) (by decide +kernel)
  simp only [Bool.and_eq_true, decide_eq_true_eq] at hcontrol hdelete
  simp only [isVisible, Bool.and_eq_true, decide_eq_true_eq, bne_iff_ne]
  omega

/-- Plain characters are quoted as they are. -/
theorem quoteChar_of_isPlain {c : Char} (h : isPlain c = true) : quoteChar c = [c] := by
  simp only [isPlain, Bool.and_eq_true, Bool.or_eq_true, Bool.not_eq_true', bne_iff_ne,
    decide_eq_true_eq] at h
  obtain ⟨⟨hmark, hbackslash⟩, hshape⟩ := h
  have hcode : (isCombining c || isUnprintable c) = false := by
    rcases hshape with hascii | hcode
    · exact isCombining_or_isUnprintable_eq_false hascii
    · exact hcode
  have hvisible := isVisible_of_isUnprintable_eq_false (Bool.or_eq_false_iff.mp hcode).2
  have hcontrol {d : Char} (hd : isVisible d = false) : c ≠ d := by
    rintro rfl
    exact Bool.false_ne_true (hd.symm.trans hvisible)
  rw [quoteChar, if_neg (hcontrol rfl), if_neg (hcontrol rfl), if_neg (hcontrol rfl),
    if_neg (hcontrol rfl), if_neg hmark, if_neg hbackslash, hcode]
  rfl

/-- Whatever a character is, it is quoted by visible ones. -/
theorem isVisible_of_mem_quoteChar {c d : Char} (h : d ∈ quoteChar c) : isVisible d = true := by
  have hletter : ∀ p ∈ letters, ['\\', p.1].all isVisible := by
    decide
  have hopening : ['\\', 'u', '\x7b'].all isVisible := by
    decide
  have hdigit : ('?' :: smalls).all isVisible := by
    decide
  have hclosing : ['\x7d'].all isVisible := by
    decide
  rcases quoteChar_cases c with ⟨letter, hmem, hquote⟩ | hquote | ⟨hquote, -, -, hprintable⟩
  · rw [hquote] at h
    exact List.all_eq_true.mp (hletter _ hmem) d h
  · rw [hquote, codePoint, List.mem_append, List.mem_append] at h
    rcases h with (h | h) | h
    · exact List.all_eq_true.mp hopening d h
    · exact List.all_eq_true.mp hdigit d (mem_of_mem_digits h)
    · exact List.all_eq_true.mp hclosing d h
  · rw [hquote] at h
    obtain rfl := List.mem_singleton.mp h
    exact isVisible_of_isUnprintable_eq_false hprintable

/-! ## Quoted texts -/

theorem unquoteFrom_flatMap_quoteChar (text rest : List Char) :
    unquoteFrom .outset (text.flatMap quoteChar ++ '"' :: rest) = some (text, rest) := by
  induction text with
  | nil => rfl
  | cons c text ih =>
    rw [List.flatMap_cons, List.append_assoc, unquoteFrom_quoteChar_append, ih]
    rfl

theorem toList_quoted (text : List Char) :
    (quoted text).toList = '"' :: (text.flatMap quoteChar ++ ['"']) := by
  have hmark : "\"".toList = ['"'] := rfl
  simp only [quoted, String.toList_append, String.toList_ofList, hmark, List.cons_append,
    List.nil_append]

/-- A text is found again between its quotation marks, whatever follows them. -/
theorem unquote?_quoted_append (text rest : List Char) :
    unquote? ((quoted text).toList ++ rest) = some (text, rest) := by
  rw [toList_quoted, List.cons_append, List.append_assoc, List.singleton_append]
  exact unquoteFrom_flatMap_quoteChar text rest

/-- A plain text stands between its quotation marks as it is. -/
theorem quoted_of_isPlain {text : List Char} (h : ∀ c ∈ text, isPlain c = true) :
    quoted text = "\"" ++ String.ofList text ++ "\"" := by
  have hchars : text.flatMap quoteChar = text.flatMap fun c => [c] :=
    List.flatMap_congr fun c hc => quoteChar_of_isPlain (h c hc)
  rw [quoted, hchars, List.flatMap_singleton']

theorem isVisible_of_mem_quoted {text : List Char} {c : Char} (h : c ∈ (quoted text).toList) :
    isVisible c = true := by
  have hmark : isVisible '"' = true := by
    decide
  rw [toList_quoted, List.mem_cons, List.mem_append, List.mem_singleton, List.mem_flatMap] at h
  rcases h with rfl | ⟨d, -, hd⟩ | rfl
  · exact hmark
  · exact isVisible_of_mem_quoteChar hd
  · exact hmark

/-- What it means that a message quotes a text, with `before` and `after` around it. -/
structure Quotes (message before : String) (text : List Char) (after : String) : Prop where
  /-- The text is read back from the message. -/
  read : (message.toList.dropPrefix? before.toList).bind unquote? = some (text, after.toList)
  /-- A plain text stands in the message as it is. -/
  verbatim : (∀ c ∈ text, isPlain c = true) →
    message = before ++ "\"" ++ String.ofList text ++ "\"" ++ after
  /-- There is no control character in the message, whatever the text. -/
  visible : ∀ c ∈ message.toList, isVisible c = true

theorem quotes_quoted (before : String) (text : List Char) (after : String)
    (hbefore : before.toList.all isVisible = true) (hafter : after.toList.all isVisible = true) :
    Quotes (before ++ quoted text ++ after) before text after := by
  refine ⟨?_, ?_, ?_⟩
  · rw [String.toList_append, String.toList_append, List.append_assoc,
      List.dropPrefix?_append_of_beq _ (beq_self_eq_true _), Option.bind_some,
      unquote?_quoted_append]
  · intro h
    rw [quoted_of_isPlain h]
    simp only [String.append_assoc]
  · intro c hc
    rw [String.toList_append, String.toList_append, List.mem_append, List.mem_append] at hc
    rcases hc with (hc | hc) | hc
    · exact List.all_eq_true.mp hbefore c hc
    · exact isVisible_of_mem_quoted hc
    · exact List.all_eq_true.mp hafter c hc

end Chip8.Text
