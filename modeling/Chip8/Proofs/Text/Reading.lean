import Chip8.Text.Blank
import Chip8.Text.Integer
import Chip8.Text.Numeral
import Mathlib.Data.List.Forall2
import Mathlib.Data.Nat.Digits.Defs
import Mathlib.Tactic.IntervalCases

/-!
# Reading words and numbers

The words of a text are the pieces between its blanks, without the empty ones. A number is read from
the left, and what comes of it is told by the first of its beginnings that is too large or is followed
by a bad digit. Both are said here without the functions that read.
-/

namespace Chip8.Text

/-! ## Words -/

theorem filter_ne_nil_cons (word : List Char) (pieces : List (List Char)) :
    (word :: pieces).filter (· ≠ []) = consWord word (pieces.filter (· ≠ [])) := by
  rw [consWord, List.filter_cons]
  by_cases h : word = [] <;> simp [h]

/-- The text up to the first blank is the first piece, and the words behind it are the other pieces. -/
theorem splitOnP_isBlank (text : List Char) :
    ∃ pieces, text.splitOnP isBlank = (firstAndOthers text).1 :: pieces ∧
      pieces.filter (· ≠ []) = (firstAndOthers text).2 := by
  induction text with
  | nil => exact ⟨[], rfl, rfl⟩
  | cons c rest ih =>
    obtain ⟨pieces, hsplit, hfilter⟩ := ih
    rw [List.splitOnP_cons_eq_if_modifyHead, hsplit, firstAndOthers]
    generalize firstAndOthers rest = found at hfilter ⊢
    obtain ⟨word, others⟩ := found
    obtain rfl : _ = others := hfilter
    by_cases hc : isBlank c
    · simp only [if_pos hc]
      exact ⟨word :: pieces, rfl, filter_ne_nil_cons word pieces⟩
    · simp only [if_neg hc]
      exact ⟨pieces, rfl, rfl⟩

/-- Words are what stands between blanks. -/
theorem words_eq_filter_splitOnP (text : List Char) :
    words text = (text.splitOnP isBlank).filter (· ≠ []) := by
  obtain ⟨pieces, hsplit, hfilter⟩ := splitOnP_isBlank text
  rw [hsplit, filter_ne_nil_cons, hfilter]
  rfl

/-! ## Hexadecimal digits -/

/-- The character is the hexadecimal digit of that value; letters may be of either case. -/
def IsHexDigit (c : Char) (value : Nat) : Prop :=
  Numeral.smalls[value]? = some c ∨ Numeral.capitals[value]? = some c

instance (c : Char) (value : Nat) : Decidable (IsHexDigit c value) :=
  inferInstanceAs (Decidable (_ ∨ _))

theorem digitValue?_of_isHexDigit {c : Char} {value : Nat} (h : IsHexDigit c value) :
    digitValue? 16 c = some value := by
  have hlt : value < 16 := by
    rcases h with h | h <;> exact (List.getElem?_eq_some_iff.mp h).1
  interval_cases value <;> rcases h with h | h <;> obtain rfl := Option.some.inj h <;> rfl

theorem isHexDigit_of_digitValue? {c : Char} {value : Nat} (h : digitValue? 16 c = some value) :
    IsHexDigit c value := by
  have hdecimal : ∀ d < 10, IsHexDigit (Char.ofNat (48 + d)) d := by decide
  have hsmall : ∀ d < 6, IsHexDigit (Char.ofNat (97 + d)) (d + 10) := by decide
  have hcapital : ∀ d < 6, IsHexDigit (Char.ofNat (65 + d)) (d + 10) := by decide
  have hle (a b : Char) : a ≤ b ↔ a.toNat ≤ b.toNat := Iff.rfl
  obtain ⟨digit, hdigit, hvalue⟩ := Option.bind_eq_some_iff.mp h
  obtain ⟨hlt, hdigit'⟩ : digit < 16 ∧ digit = value := by simpa using hvalue
  obtain rfl := hdigit'
  simp only [hle, Char.reduceToNat] at hdigit
  rw [← Char.ofNat_toNat c]
  generalize c.toNat = n at hdigit ⊢
  split_ifs at hdigit with h₁ h₂ h₃
  · obtain rfl := Option.some.inj hdigit
    have hn := hdecimal (n - 48) (by omega)
    rwa [Nat.add_sub_cancel' h₁.1] at hn
  · obtain rfl := Option.some.inj hdigit
    have hn := hsmall (n - 97) (by omega)
    rwa [Nat.add_sub_cancel' h₂.1] at hn
  · obtain rfl := Option.some.inj hdigit
    have hn := hcapital (n - 65) (by omega)
    rwa [Nat.add_sub_cancel' h₃.1] at hn

/-! ## Hexadecimal numbers -/

/-- The characters are digits that make up that value; the empty text makes up zero. -/
def IsHex (digits : List Char) (value : Nat) : Prop :=
  ∃ values, List.Forall₂ IsHexDigit digits values ∧ Nat.ofDigits 16 values.reverse = value

/-- The value of digits that are read behind a value. -/
def valueFrom (value : Nat) (values : List Nat) : Nat := values.foldl (fun v d => v * 16 + d) value

theorem valueFrom_eq (value : Nat) (values : List Nat) :
    valueFrom value values = value * 16 ^ values.length + Nat.ofDigits 16 values.reverse := by
  induction values generalizing value with
  | nil => simp [valueFrom]
  | cons d values ih =>
    have hrest : valueFrom value (d :: values) = valueFrom (value * 16 + d) values := rfl
    rw [hrest, ih, List.reverse_cons, Nat.ofDigits_append, List.length_reverse, List.length_cons,
      Nat.ofDigits_singleton]
    ring

theorem le_valueFrom (value : Nat) (values : List Nat) : value ≤ valueFrom value values := by
  have hpos : 0 < 16 ^ values.length := Nat.pow_pos (by decide)
  have hmul : value ≤ value * 16 ^ values.length := Nat.le_mul_of_pos_right value hpos
  rw [valueFrom_eq]
  omega

theorem isHex_iff {digits : List Char} {value : Nat} :
    IsHex digits value ↔
      ∃ values, List.Forall₂ IsHexDigit digits values ∧ valueFrom 0 values = value := by
  simp only [IsHex, valueFrom_eq, Nat.zero_mul, Nat.zero_add]

/-- What comes of reading the digits of a number that is at most `limit`. -/
inductive ReadsHex (limit : Nat) : List Char → Except IntegerError Nat → Prop
  /-- All are digits, and their value is not above the limit. -/
  | number {digits : List Char} {value : Nat} (hne : digits ≠ []) (hdigits : IsHex digits value)
      (hle : value ≤ limit) : ReadsHex limit digits (.ok value)
  /-- There are none. -/
  | missing : ReadsHex limit [] (.error .invalidDigit)
  /-- A character is no digit, and the value before it is not above the limit. -/
  | badDigit {before after : List Char} {c : Char} {value : Nat} (hbefore : IsHex before value)
      (hle : value ≤ limit) (hc : ∀ d, ¬IsHexDigit c d) :
      ReadsHex limit (before ++ c :: after) (.error .invalidDigit)
  /-- Some first digits have a value above the limit, whatever stands behind them. -/
  | tooLarge {before after : List Char} {value : Nat} (hbefore : IsHex before value)
      (hlt : limit < value) : ReadsHex limit (before ++ after) (.error .tooLarge)

section Digits

variable {limit value : Nat} {excess : IntegerError} {digits rest : List Char} {values : List Nat}

/-- Digits that do not exceed the limit are read, and reading goes on behind them. -/
theorem readDigits_append (h : List.Forall₂ IsHexDigit digits values)
    (hle : valueFrom value values ≤ limit) :
    readDigits 16 limit excess value (digits ++ rest) =
      readDigits 16 limit excess (valueFrom value values) rest := by
  induction h generalizing value with
  | nil => rfl
  | @cons c d digits values hd _ ih =>
    have hfirst : ¬limit < value * 16 + d := by
      have hvalues : value * 16 + d ≤ valueFrom value (d :: values) := le_valueFrom _ values
      omega
    simp only [List.cons_append, readDigits, digitValue?_of_isHexDigit hd, if_neg hfirst]
    exact ih hle

/-- Digits that exceed the limit end the reading. -/
theorem readDigits_append_of_lt (h : List.Forall₂ IsHexDigit digits values) (hle : value ≤ limit)
    (hlt : limit < valueFrom value values) :
    readDigits 16 limit excess value (digits ++ rest) = .error excess := by
  induction h generalizing value with
  | nil => exact absurd hlt (Nat.not_lt.mpr hle)
  | @cons c d digits values hd _ ih =>
    simp only [List.cons_append, readDigits, digitValue?_of_isHexDigit hd]
    split
    · rfl
    · next hfirst => exact ih (Nat.not_lt.mp hfirst) hlt

/-- Every text is made of digits, or begins with some before a character that is none. -/
theorem exists_digits_before (text : List Char) :
    ∃ before values, List.Forall₂ IsHexDigit before values ∧
      (text = before ∨ ∃ c after, text = before ++ c :: after ∧ ∀ d, ¬IsHexDigit c d) := by
  induction text with
  | nil => exact ⟨[], [], .nil, Or.inl rfl⟩
  | cons c rest ih =>
    rcases hc : digitValue? 16 c with _ | d
    · refine ⟨[], [], .nil, Or.inr ⟨c, rest, rfl, fun d hd => ?_⟩⟩
      rw [digitValue?_of_isHexDigit hd] at hc
      exact absurd hc (by simp)
    · obtain ⟨before, values, hbefore, hrest⟩ := ih
      refine ⟨c :: before, d :: values, .cons (isHexDigit_of_digitValue? hc) hbefore, ?_⟩
      rcases hrest with rfl | ⟨bad, after, rfl, hbad⟩
      · exact Or.inl rfl
      · exact Or.inr ⟨bad, after, rfl, hbad⟩

theorem exists_readsHex (limit : Nat) (text : List Char) : ∃ r, ReadsHex limit text r := by
  obtain ⟨before, values, hbefore, htext⟩ := exists_digits_before text
  have hhex : IsHex before (valueFrom 0 values) := isHex_iff.mpr ⟨values, hbefore, rfl⟩
  by_cases hlt : limit < valueFrom 0 values
  · rcases htext with rfl | ⟨c, after, rfl, -⟩
    · have hlarge : ReadsHex limit (text ++ []) (.error .tooLarge) := .tooLarge hhex hlt
      rw [List.append_nil] at hlarge
      exact ⟨_, hlarge⟩
    · exact ⟨_, .tooLarge hhex hlt⟩
  · have hle := Nat.not_lt.mp hlt
    rcases htext with rfl | ⟨c, after, rfl, hc⟩
    · rcases eq_or_ne text [] with rfl | hne
      · exact ⟨_, .missing⟩
      · exact ⟨_, .number hne hhex hle⟩
    · exact ⟨_, .badDigit hhex hle hc⟩

theorem ne_nil_of_isHex (h : IsHex digits value) (hne : value ≠ 0) : digits ≠ [] := by
  rintro rfl
  obtain ⟨values, hvalues, rfl⟩ := h
  obtain rfl := List.forall₂_nil_left_iff.mp hvalues
  exact hne rfl

theorem readDigits_of_readsHex {text : List Char} {r : Except IntegerError Nat}
    (h : ReadsHex limit text r) :
    (if text = [] then .error .invalidDigit else readDigits 16 limit .tooLarge 0 text) = r := by
  cases h with
  | missing => rfl
  | number hne hdigits hle =>
    obtain ⟨values, hvalues, rfl⟩ := isHex_iff.mp hdigits
    have hread : readDigits 16 limit .tooLarge 0 (text ++ []) =
        readDigits 16 limit .tooLarge (valueFrom 0 values) [] := readDigits_append hvalues hle
    rw [List.append_nil] at hread
    rw [if_neg hne, hread]
    rfl
  | @badDigit before after c value hbefore hle hc =>
    have hne : before ++ c :: after ≠ [] := by simp
    obtain ⟨values, hvalues, rfl⟩ := isHex_iff.mp hbefore
    rw [if_neg hne, readDigits_append hvalues hle, readDigits]
    split
    · rfl
    · next d hd => exact absurd (isHexDigit_of_digitValue? hd) (hc d)
  | @tooLarge before after value hbefore hlt =>
    have hne : before ++ after ≠ [] := by
      have hbefore' := ne_nil_of_isHex hbefore (by omega)
      simp [hbefore']
    obtain ⟨values, hvalues, rfl⟩ := isHex_iff.mp hbefore
    rw [if_neg hne]
    exact readDigits_append_of_lt hvalues (Nat.zero_le limit) hlt

end Digits

/-! ## Signs -/

/-- A text without one plus sign at its beginning. -/
def unsigned : List Char → List Char
  | '+' :: digits => digits
  | text => text

/-- What comes of reading a number that is at most `limit` and may have a plus sign before it. -/
inductive ReadsNatural (limit : Nat) : List Char → Except IntegerError Nat → Prop
  /-- There is nothing to read. -/
  | empty : ReadsNatural limit [] (.error .empty)
  /-- What stands behind the sign decides. -/
  | digits {text : List Char} {r : Except IntegerError Nat} (hne : text ≠ [])
      (h : ReadsHex limit (unsigned text) r) : ReadsNatural limit text r

theorem readNatural_eq (limit : Nat) {text : List Char} (hne : text ≠ []) :
    readNatural 16 limit text =
      if unsigned text = [] then .error .invalidDigit
      else readDigits 16 limit .tooLarge 0 (unsigned text) := by
  unfold readNatural
  split
  · exact absurd rfl hne
  · rfl
  · next digits hdigits =>
    have hrest : digits ≠ [] := fun h => hdigits (by rw [h])
    exact (if_neg hrest).symm
  · next hplus =>
    have htext : unsigned text = text := by
      unfold unsigned
      split
      · exact absurd rfl (hplus _)
      · rfl
    rw [htext, if_neg hne]

/-- A number comes of a text exactly as the grammar says. -/
theorem readNatural_eq_iff {limit : Nat} {text : List Char} {r : Except IntegerError Nat} :
    readNatural 16 limit text = r ↔ ReadsNatural limit text r := by
  have hgraph {r : Except IntegerError Nat} (h : ReadsNatural limit text r) :
      readNatural 16 limit text = r := by
    cases h with
    | empty => rfl
    | digits hne h =>
      rw [readNatural_eq limit hne]
      exact readDigits_of_readsHex h
  refine ⟨?_, hgraph⟩
  rintro rfl
  obtain ⟨r, hr⟩ : ∃ r, ReadsNatural limit text r := by
    rcases eq_or_ne text [] with rfl | hne
    · exact ⟨_, .empty⟩
    · obtain ⟨r, hr⟩ := exists_readsHex limit (unsigned text)
      exact ⟨r, .digits hne hr⟩
  rwa [hgraph hr]

/-- A number that is read is not above the limit. -/
theorem ReadsNatural.le {limit value : Nat} {text : List Char}
    (h : ReadsNatural limit text (.ok value)) : value ≤ limit := by
  have hhex {digits : List Char} (h : ReadsHex limit digits (.ok value)) : value ≤ limit := by
    cases h with
    | number _ _ hle => exact hle
  cases h with
  | digits _ h => exact hhex h

end Chip8.Text
