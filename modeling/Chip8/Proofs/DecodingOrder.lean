import Chip8.Proofs.InstructionSet
import Mathlib.Data.List.Nodup
import Mathlib.Data.List.Pairwise

/-!
# The order of the instruction table

A word means the operation of the first entry that it matches, so the order of the table counts only
where one word matches two entries. There are two such pairs: `00E0`, which clears the screen, and
`00EE`, which returns, are also machine-code calls `0nnn`. So a table of the same entries in another
order decodes all words alike exactly when it keeps these two before the third.

That a list has `a` before `b` is written `[a, b] <+ l`.
-/

namespace Chip8

open scoped List

/-! ## The first element with a property -/

section FirstMatch

variable {α : Type} {P : α → Bool} {l l' : List α} {a b : α}

theorem pair_sublist_or (ha : a ∈ l) (hb : b ∈ l) (hne : a ≠ b) : [a, b] <+ l ∨ [b, a] <+ l := by
  have hpairs : l.Pairwise fun x y => [x, y] <+ l ∨ [y, x] <+ l := by
    rw [List.pairwise_iff_forall_sublist]
    intro x y hxy
    exact Or.inl hxy
  have : Std.Symm fun x y => [x, y] <+ l ∨ [y, x] <+ l := ⟨fun _ _ => Or.symm⟩
  exact hpairs.forall ha hb hne

/-- An element that has the property hides those behind it. -/
theorem find?_ne_of_pair_sublist (hnodup : l.Nodup) (hab : [a, b] <+ l) (ha : P a) :
    l.find? P ≠ some b := by
  induction l with
  | nil => exact absurd hab (by simp)
  | cons x l ih =>
    obtain ⟨hx, hrest⟩ := List.nodup_cons.mp hnodup
    cases hab with
    | cons _ hab =>
      by_cases hPx : P x
      · rw [List.find?_cons_of_pos hPx]
        rintro ⟨⟩
        exact hx (hab.subset (by simp))
      · rw [List.find?_cons_of_neg hPx]
        exact ih hrest hab
    | cons_cons _ hb =>
      rw [List.find?_cons_of_pos ha]
      rintro ⟨⟩
      exact hx (List.singleton_sublist.mp hb)

theorem pair_sublist_of_find? (hnodup : l.Nodup) (h : l.find? P = some a) (hb : b ∈ l) (hPb : P b)
    (hne : a ≠ b) : [a, b] <+ l := by
  rcases pair_sublist_or (List.mem_of_find?_eq_some h) hb hne with hab | hba
  · exact hab
  · exact absurd h (find?_ne_of_pair_sublist hnodup hba hPb)

/-- A search finds the same in another order of the list if those elements that have the property
keep their order. -/
theorem find?_eq_of_perm (hperm : l'.Perm l) (hnodup : l.Nodup)
    (h : ∀ a b, P a → P b → [a, b] <+ l → [a, b] <+ l') : l'.find? P = l.find? P := by
  rcases hfind : l.find? P with _ | a
  · rw [List.find?_eq_none] at hfind ⊢
    intro x hx
    exact hfind x (hperm.mem_iff.mp hx)
  · have ha : P a := List.find?_some hfind
    have hmem : a ∈ l' := hperm.mem_iff.mpr (List.mem_of_find?_eq_some hfind)
    obtain ⟨b, hfind'⟩ : ∃ b, l'.find? P = some b :=
      Option.isSome_iff_exists.mp (List.find?_isSome.mpr ⟨a, hmem, ha⟩)
    rw [hfind']
    -- Were the two finds different, the first would stand before the second also in the other list,
    -- and hide it there.
    by_contra hne
    have hb : P b := List.find?_some hfind'
    have hbl : b ∈ l := hperm.mem_iff.mp (List.mem_of_find?_eq_some hfind')
    have hab : [a, b] <+ l :=
      pair_sublist_of_find? hnodup hfind hbl hb fun hab => hne (by rw [hab])
    exact find?_ne_of_pair_sublist (hperm.nodup_iff.mpr hnodup) (h a b ha hb hab) ha hfind'

/-- Where the values of a function are distinct, the order of the values is that of the elements. -/
theorem pair_sublist_of_map {β : Type} {f : α → β} (hnodup : (l.map f).Nodup) (ha : a ∈ l)
    (hb : b ∈ l) (h : [f a, f b] <+ l.map f) : [a, b] <+ l := by
  obtain ⟨pair, hpair, hmap⟩ := List.sublist_map_iff.mp h
  obtain ⟨a', rest, rfl, ha', hrest⟩ := List.map_eq_cons_iff.mp hmap.symm
  obtain ⟨b', rest', rfl, hb', hnil⟩ := List.map_eq_cons_iff.mp hrest
  obtain rfl := List.map_eq_nil_iff.mp hnil
  obtain rfl := List.inj_on_of_nodup_map hnodup (hpair.subset (by simp)) ha ha'
  obtain rfl := List.inj_on_of_nodup_map hnodup (hpair.subset (by simp)) hb hb'
  exact hpair

end FirstMatch

/-! ## Entries that share a word -/

/-- The two entries are a special case of the machine-code call and that call itself. -/
def Pattern.SpecialisesCall (p q : Pattern) : Prop :=
  p.operation ∈ [.clear, .ret] ∧ q.operation = .sys

instance (p q : Pattern) : Decidable (p.SpecialisesCall q) :=
  inferInstanceAs (Decidable (_ ∧ _))

theorem Pattern.Matches.value_and {p q : Pattern} {w : Word} (hp : p.Matches w) (hq : q.Matches w) :
    p.value &&& q.mask = q.value &&& p.mask := by
  rw [← hp, ← hq, UInt16.and_assoc, UInt16.and_assoc, UInt16.and_comm p.mask]

theorem nodup_operations : (instructionSet.map Pattern.operation).Nodup := by
  decide

theorem nodup_instructionSet : instructionSet.Nodup := nodup_operations.of_map _

/-- No word matches two entries, unless one of them is a special case of the machine-code call and the
other is that call. -/
theorem specialisesCall_of_matches {p q : Pattern} {w : Word} (hp : p ∈ instructionSet)
    (hq : q ∈ instructionSet) (hne : p ≠ q) (hpw : p.Matches w) (hqw : q.Matches w) :
    p.SpecialisesCall q ∨ q.SpecialisesCall p := by
  -- That two values agree where both masks look is all that a shared word tells, and for the entries
  -- of the table it can be decided.
  have hall : ∀ p ∈ instructionSet, ∀ q ∈ instructionSet, p.value &&& q.mask = q.value &&& p.mask →
      p = q ∨ p.SpecialisesCall q ∨ q.SpecialisesCall p := by
    decide +kernel
  exact (hall p hp q hq (hpw.value_and hqw)).resolve_left hne

/-! ## Tables in another order -/

section Reordered

variable {table : List Pattern}

theorem nodup_operations_of_perm (htable : table.Perm instructionSet) :
    (table.map Pattern.operation).Nodup :=
  (htable.map _).nodup_iff.mpr nodup_operations

/-- Where a table of the same entries decodes like the instruction table, an entry stands before all
others that match a word for which it is found. -/
theorem keeps_order_of_firstMatch? (htable : table.Perm instructionSet)
    (hdecodes : ∀ w : Word, firstMatch? table w = w.operation?) {w : Word} {operation : Operation}
    {q : Pattern} (hw : w.operation? = some operation) (hq : q ∈ instructionSet)
    (hqw : q.Matches w) (hne : operation ≠ q.operation) :
    [operation, q.operation] <+ table.map Pattern.operation := by
  have hnodup := nodup_operations_of_perm htable
  obtain ⟨p, hfind, rfl⟩ := Option.map_eq_some_iff.mp ((hdecodes w).trans hw)
  have hpair : [p, q] <+ table :=
    pair_sublist_of_find? (hnodup.of_map _) hfind (htable.mem_iff.mpr hq) (by simpa using hqw)
      fun hpq => hne (by rw [hpq])
  exact hpair.map Pattern.operation

/-- A table of the same entries that keeps the special cases before the machine-code call decodes like
the instruction table. -/
theorem firstMatch?_of_keeps_order (htable : table.Perm instructionSet)
    (hclear : [Operation.clear, .sys] <+ table.map Pattern.operation)
    (hret : [Operation.ret, .sys] <+ table.map Pattern.operation) (w : Word) :
    firstMatch? table w = w.operation? := by
  rw [Word.operation?, firstMatch?, firstMatch?]
  congr 1
  apply find?_eq_of_perm htable nodup_instructionSet
  intro p q hpw hqw hpq
  have hp : p ∈ instructionSet := hpq.subset (by simp)
  have hq : q ∈ instructionSet := hpq.subset (by simp)
  have hne : p ≠ q := by
    rintro rfl
    exact absurd (nodup_instructionSet.sublist hpq) (by simp)
  apply pair_sublist_of_map (nodup_operations_of_perm htable) (htable.mem_iff.mpr hp)
    (htable.mem_iff.mpr hq)
  rcases specialisesCall_of_matches hp hq hne (by simpa using hpw) (by simpa using hqw) with
    ⟨hspecial, hcall⟩ | ⟨hspecial, hcall⟩
  · rw [hcall]
    rcases List.mem_pair.mp hspecial with hop | hop
    · rw [hop]
      exact hclear
    · rw [hop]
      exact hret
  · -- The instruction table itself never has the call before one of its special cases.
    have hnever : ∀ special ∈ [Operation.clear, .ret],
        ¬[.sys, special] <+ instructionSet.map Pattern.operation := by
      decide
    have hcalls : [p.operation, q.operation] <+ instructionSet.map Pattern.operation :=
      hpq.map Pattern.operation
    rw [hcall] at hcalls
    exact absurd hcalls (hnever _ hspecial)

end Reordered

/-! ## Main statement -/

/-- The order of the instruction table counts for the special cases of the machine-code call only. A
table of the same entries decodes every word alike if and only if it has the entries for clearing the
screen and for returning before the one for the call; no word matches two other entries; and every
entry is found for some word. -/
theorem table_order_counts_for_special_cases_only :
    (∀ table : List Pattern, table.Perm instructionSet →
      ((∀ w : Word, firstMatch? table w = w.operation?) ↔
        [Operation.clear, .sys] <+ table.map Pattern.operation ∧
          [Operation.ret, .sys] <+ table.map Pattern.operation)) ∧
    (∀ p ∈ instructionSet, ∀ q ∈ instructionSet, p ≠ q → ∀ w : Word, p.Matches w → q.Matches w →
      p.SpecialisesCall q ∨ q.SpecialisesCall p) ∧
    ∀ p ∈ instructionSet, ∃ w : Word, instructionSet.find? (fun q => q.Matches w) = some p := by
  refine ⟨?_, ?_, ?_⟩
  · intro table htable
    constructor
    · intro hdecodes
      have hcall : (⟨.sys, 0x0000, 0xF000⟩ : Pattern) ∈ instructionSet := by decide
      constructor
      · exact keeps_order_of_firstMatch? (w := 0x00E0) htable hdecodes rfl hcall rfl (by decide)
      · exact keeps_order_of_firstMatch? (w := 0x00EE) htable hdecodes rfl hcall rfl (by decide)
    · rintro ⟨hclear, hret⟩
      exact firstMatch?_of_keeps_order htable hclear hret
  · intro p hp q hq hne w hpw hqw
    exact specialisesCall_of_matches hp hq hne hpw hqw
  · have hfound : ∀ p ∈ instructionSet,
        instructionSet.find? (fun q => q.Matches p.value) = some p := by
      decide +kernel
    intro p hp
    exact ⟨p.value, hfound p hp⟩

/-- The instruction table with the machine-code call moved to its end. -/
def instructionSetCallLast : List Pattern :=
  instructionSet.filter (fun p => p.operation ≠ .sys) ++ [⟨.sys, 0x0000, 0xF000⟩]

/-- The call may stand last but not first: read backwards, the table takes `00E0` for a call. -/
theorem table_order_counts_for_special_cases_only_backwards :
    (∀ w : Word, firstMatch? instructionSetCallLast w = w.operation?) ∧
    (¬∀ w : Word, firstMatch? instructionSet.reverse w = w.operation?) ∧
    (Pattern.SpecialisesCall ⟨.clear, 0x00E0, 0xFFFF⟩ ⟨.sys, 0x0000, 0xF000⟩ ∨
      Pattern.SpecialisesCall ⟨.sys, 0x0000, 0xF000⟩ ⟨.clear, 0x00E0, 0xFFFF⟩) := by
  obtain ⟨hiff, hshared, -⟩ := table_order_counts_for_special_cases_only
  refine ⟨?_, ?_, ?_⟩
  · exact (hiff instructionSetCallLast (by decide +kernel)).mpr ⟨by decide, by decide⟩
  · intro hdecodes
    have hkept := (hiff instructionSet.reverse (List.reverse_perm _)).mp hdecodes
    exact absurd hkept.1 (by decide)
  · exact hshared _ (by decide) _ (by decide) (by decide) 0x00E0 rfl rfl

end Chip8
