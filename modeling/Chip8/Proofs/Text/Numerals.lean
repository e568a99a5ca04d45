import Chip8.Proofs.Text.Reading

/-!
# Reading numerals back

A number that is written with enough digits is read back, whatever zeros stand before it. A numeral
holds no blank, so that numerals which are separated by blanks are the words of their text.
-/

namespace Chip8

/-! ## Digits -/

namespace Numeral

theorem digit_mem (alphabet : List Char) (d : Nat) : digit alphabet d ∈ '?' :: alphabet := by
  rw [digit, List.getD_eq_getElem?_getD]
  rcases hd : alphabet[d]? with _ | c
  · exact List.mem_cons_self
  · exact List.mem_cons_of_mem _ (List.mem_of_getElem? hd)

theorem mem_of_mem_digits {alphabet : List Char} {base width n : Nat} {c : Char}
    (h : c ∈ digits alphabet base width n) : c ∈ '?' :: alphabet := by
  induction width generalizing n with
  | zero => exact absurd h List.not_mem_nil
  | succ width ih =>
    rw [digits, List.mem_append, List.mem_singleton] at h
    rcases h with h | rfl
    · exact ih h
    · exact digit_mem alphabet (n % base)

/-- A number has no more decimal digits than it needs. -/
theorem lt_pow_decimalWidth (n : Nat) : n < 10 ^ decimalWidth n := by
  induction n using decimalWidth.induct with
  | case1 n hn =>
    rw [decimalWidth, if_pos hn]
    exact hn
  | case2 n hn ih =>
    rw [decimalWidth, if_neg hn, Nat.pow_succ]
    omega

end Numeral

namespace Text

open Numeral

/-- An alphabet whose digits are understood in that base. -/
def Legible (alphabet : List Char) (base : Nat) : Prop :=
  ∀ d < base, digitValue? base (digit alphabet d) = some d

instance (alphabet : List Char) (base : Nat) : Decidable (Legible alphabet base) :=
  inferInstanceAs (Decidable (∀ d < base, _))

section Numerals

variable {alphabet : List Char} {base limit width n : Nat} {excess : IntegerError}

theorem readDigits_digits_append (h : Legible alphabet base) (hfit : n < base ^ width)
    (hle : n ≤ limit) (rest : List Char) :
    readDigits base limit excess 0 (digits alphabet base width n ++ rest) =
      readDigits base limit excess n rest := by
  induction width generalizing n rest with
  | zero =>
    obtain rfl : n = 0 := Nat.lt_one_iff.mp hfit
    rfl
  | succ width ih =>
    have hbase : 0 < base := by
      rcases Nat.eq_zero_or_pos base with rfl | hpos
      · rw [Nat.zero_pow (Nat.succ_pos width)] at hfit
        exact absurd hfit (Nat.not_lt_zero n)
      · exact hpos
    have hquot : n / base < base ^ width := by
      rw [Nat.pow_succ] at hfit
      exact Nat.div_lt_of_lt_mul (Nat.mul_comm _ base ▸ hfit)
    have hle' : n / base ≤ limit := Nat.le_trans (Nat.div_le_self n base) hle
    have hvalue : n / base * base + n % base = n := Nat.div_add_mod' n base
    rw [digits, List.append_assoc, ih hquot hle', List.singleton_append, readDigits,
      h _ (Nat.mod_lt n hbase)]
    dsimp only
    rw [hvalue, if_neg (Nat.not_lt.mpr hle)]

/-- A number is read back if it is written with enough digits and is not above the limit. -/
theorem readDigits_digits (h : Legible alphabet base) (hfit : n < base ^ width) (hle : n ≤ limit) :
    readDigits base limit excess 0 (digits alphabet base width n) = .ok n := by
  have hread : readDigits base limit excess 0 (digits alphabet base width n ++ []) =
      readDigits base limit excess n [] := readDigits_digits_append h hfit hle []
  rwa [List.append_nil] at hread

end Numerals

/-! ## Words -/

theorem words_append_blank {c : Char} (hc : isBlank c = true) (before after : List Char) :
    words (before ++ c :: after) = words before ++ words after := by
  rw [words_eq_filter_splitOnP, List.splitOnP_append_cons before after hc, List.filter_append,
    ← words_eq_filter_splitOnP, ← words_eq_filter_splitOnP]

/-- A word: some characters, none of them a blank. -/
def IsWord (word : List Char) : Prop := word ≠ [] ∧ ∀ c ∈ word, isBlank c = false

theorem words_of_isWord {word : List Char} (h : IsWord word) : words word = [word] := by
  rw [words_eq_filter_splitOnP, List.splitOnP_eq_singleton h.2]
  exact List.filter_cons_of_pos (by simpa using h.1)

/-- The words of a text are those that it was made of. -/
theorem words_intercalate {ws : List (List Char)} (h : ∀ word ∈ ws, IsWord word) :
    words ([' '].intercalate ws) = ws := by
  induction ws with
  | nil => rfl
  | cons word rest ih =>
    obtain ⟨hword, hrest⟩ := List.forall_mem_cons.mp h
    rcases rest with _ | ⟨next, rest⟩
    · rw [List.intercalate_singleton]
      exact words_of_isWord hword
    · rw [List.intercalate_cons_cons, List.append_assoc, List.singleton_append,
        words_append_blank rfl, words_of_isWord hword, ih hrest]
      rfl

end Text

end Chip8
