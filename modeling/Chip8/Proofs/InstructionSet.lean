import Chip8.Instruction

/-!
# Reading the instruction table

What a word means, said in terms of the entries that it matches.
-/

namespace Chip8

/-- A word means an operation only if it matches an entry with that operation. -/
theorem Word.matches_of_operation? {w : Word} {operation : Operation}
    (h : w.operation? = some operation) :
    ∃ p ∈ instructionSet, p.operation = operation ∧ p.Matches w := by
  obtain ⟨p, hfind, hp⟩ := Option.map_eq_some_iff.mp h
  refine ⟨p, List.mem_of_find?_eq_some hfind, hp, ?_⟩
  simpa using List.find?_some hfind

/-- The entry of the instruction table with the given operation. -/
def Operation.pattern? (operation : Operation) : Option Pattern :=
  instructionSet.find? fun p => p.operation = operation

/-- A word that means an operation has the value of that operation's entry under its mask. -/
theorem Word.masked_of_operation? {w : Word} {operation : Operation} {p : Pattern}
    (h : w.operation? = some operation) (hp : operation.pattern? = some p) :
    w &&& p.mask = p.value := by
  have hall : ∀ p ∈ instructionSet, p.operation.pattern? = some p := by
    decide
  obtain ⟨q, hmem, rfl, hw⟩ := Word.matches_of_operation? h
  obtain rfl := Option.some.inj ((hall q hmem).symm.trans hp)
  exact hw

/-- Where all entries with certain operations have the same mask, a word that means one of them has
one of their values under that mask. -/
theorem Word.masked_mem_of_operation? {w : Word} {operation : Operation}
    {operations : List Operation} {mask : UInt16} {values : List UInt16}
    (h : w.operation? = some operation) (hop : operation ∈ operations)
    (hall : ∀ p ∈ instructionSet, p.operation ∈ operations → p.mask = mask ∧ p.value ∈ values) :
    w &&& mask ∈ values := by
  obtain ⟨p, hmem, rfl, hw⟩ := Word.matches_of_operation? h
  obtain ⟨hmask, hvalue⟩ := hall p hmem hop
  rw [← hmask, hw]
  exact hvalue

/-- A word tells its operation by some of its bits if all entries that agree with it in these bits
have that operation. -/
theorem Word.operation_eq_of_masked {w : Word} {operation operation' : Operation}
    {mask value : UInt16} (h : w.operation? = some operation) (hw : w &&& mask = value)
    (hall : ∀ p ∈ instructionSet, p.value &&& mask = value &&& p.mask → p.operation = operation') :
    operation = operation' := by
  obtain ⟨p, hmem, rfl, hp⟩ := Word.matches_of_operation? h
  refine hall p hmem ?_
  rw [← hp, ← hw, UInt16.and_assoc, UInt16.and_assoc, UInt16.and_comm p.mask]

theorem Word.and_ones (w : Word) : w &&& 0xFFFF = w := by
  rw [show (0xFFFF : UInt16) = -1 from rfl, UInt16.and_neg_one]

/-- A word means nothing if it matches no entry. -/
theorem Word.operation?_eq_none_iff {w : Word} :
    w.operation? = none ↔ ∀ p ∈ instructionSet, ¬p.Matches w := by
  rw [Word.operation?, firstMatch?, Option.map_eq_none_iff, List.find?_eq_none]
  simp only [decide_eq_true_eq]

/-- A word that matches an entry means the operation of that entry, if all entries that agree with it
under both masks have that operation. -/
theorem Word.operation?_of_matches {w : Word} {p : Pattern} (hp : p ∈ instructionSet)
    (hw : p.Matches w)
    (hall : ∀ q ∈ instructionSet, q.value &&& p.mask = p.value &&& q.mask →
      q.operation = p.operation) : w.operation? = some p.operation := by
  have hsome : w.operation? ≠ none := fun hnone => Word.operation?_eq_none_iff.mp hnone p hp hw
  obtain ⟨operation, hop⟩ := Option.ne_none_iff_exists'.mp hsome
  rw [hop, Word.operation_eq_of_masked hop hw hall]

/-- Where an entry leaves only the register `x` to choose, the words that match it are recognised and
name that register. -/
theorem Word.decode_withRegister {p : Pattern} (hp : p ∈ instructionSet) (hmask : p.mask = 0xF0FF)
    (x : RegisterIndex) :
    Word.operation? (.ofNat (p.value.toNat + 0x100 * x)) = some p.operation ∧
      Word.x (.ofNat (p.value.toNat + 0x100 * x)) = x := by
  have hdistinct : ∀ p ∈ instructionSet, p.mask = 0xF0FF → ∀ q ∈ instructionSet,
      q.value &&& p.mask = p.value &&& q.mask → q.operation = p.operation := by
    decide +kernel
  have hmatches : ∀ p ∈ instructionSet, p.mask = 0xF0FF → ∀ x : RegisterIndex,
      p.Matches (.ofNat (p.value.toNat + 0x100 * x)) ∧
        Word.x (.ofNat (p.value.toNat + 0x100 * x)) = x := by
    decide +kernel
  obtain ⟨hword, hx⟩ := hmatches p hp hmask x
  exact ⟨Word.operation?_of_matches hp hword (hdistinct p hp hmask), hx⟩

end Chip8
