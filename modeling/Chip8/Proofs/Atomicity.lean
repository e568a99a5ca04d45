import Chip8.Proofs.Checked.Cycle
import Chip8.Proofs.InstructionSet
import Chip8.Proofs.Stimulus
import Chip8.Rom

/-!
# Failing cycles change nothing

Whatever state a machine is in, a cycle executes the word at the program counter if it is an
instruction, and otherwise reports that word and leaves everything as it was. Nothing in between is
possible: with every index, shift and sum checked, the cycle has the same result.
-/

namespace Chip8

/-- A word is its high byte, followed by its low byte. -/
theorem Word.toNat_ofBytes (high low : UInt8) :
    (Word.ofBytes high low).toNat = 256 * high.toNat + low.toNat := by
  have hlow : low.toNat < 2 ^ 8 := low.toNat_lt
  have hhigh : high.toNat <<< 8 < 2 ^ 16 := by
    have := high.toNat_lt
    rw [Nat.shiftLeft_eq]
    omega
  have hshift : (high.toUInt16 <<< 8).toNat = high.toNat <<< 8 := by
    rw [UInt16.toNat_shiftLeft]
    exact Nat.mod_eq_of_lt hhigh
  rw [ofBytes, UInt16.toNat_or, hshift, UInt8.toNat_toUInt16,
    ← Nat.shiftLeft_add_eq_or_of_lt hlow, Nat.shiftLeft_eq, Nat.mul_comm]

namespace Machine

/-- A fetch reads the two cells at the program counter, which wrap around at the end of memory. -/
theorem fetch_spec (m : Machine) :
    ∃ high low, m.memory.cells[m.pc.toNat % 4096]? = some high ∧
      m.memory.cells[(m.pc.toNat + 1) % 4096]? = some low ∧
      m.fetch.toNat = 256 * high.toNat + low.toNat := by
  have hnext : (m.pc + 1).toNat % memorySize = (m.pc.toNat + 1) % 4096 := by
    rw [UInt16.toNat_add]
    exact Nat.mod_mod_of_dvd _ (by decide)
  refine ⟨m.memory.read m.pc, m.memory.read (m.pc + 1), m.memory.get?_eq_some m.pc, ?_,
    Word.toNat_ofBytes _ _⟩
  rw [← hnext]
  exact m.memory.get?_eq_some (m.pc + 1)

/-- A machine at a word that is not an instruction fails on it in every cycle, and can only have its
keys and its timers changed. -/
theorem run_of_operation?_eq_none {m : Machine} (h : m.fetch.operation? = none)
    (run : List Stimulus) :
    (∀ result ∈ m.results run, result = .error (.unrecognised m.fetch)) ∧
      m.after run = { m with timers := (m.after run).timers, keys := (m.after run).keys } := by
  induction run generalizing m with
  | nil => exact ⟨by simp [results], rfl⟩
  | cons s run ih =>
    cases s with
    | tick => exact @ih m.tick h
    | keys mask => exact @ih (m.setKeys mask) h
    | cycle =>
      have hc := cycle_of_operation?_eq_none h
      obtain ⟨hres, hafter⟩ := ih h
      rw [results, after_cons, react, hc, List.forall_mem_cons]
      exact ⟨⟨rfl, hres⟩, hafter⟩

end Machine

/-! ## Main statement -/

/-- Cycles never go out of range, and failing ones change nothing. In every state, a cycle executes
the big-endian word at the program counter if that matches an entry of the instruction table;
otherwise it fails with that word and leaves the whole machine as it was, so that it fails with that
word again and again, whatever happens to timers and keys in between. Checking every index, shift and
sum makes no difference. -/
theorem cycle_executes_or_changes_nothing (m : Machine) (hr : m.random.Reliable) :
    (∃ high low, m.memory.cells[m.pc.toNat % 4096]? = some high ∧
      m.memory.cells[(m.pc.toNat + 1) % 4096]? = some low ∧
      m.fetch.toNat = 256 * high.toNat + low.toNat) ∧
    ((∃ p ∈ instructionSet, p.Matches m.fetch) → m.cycle.1 = .ok ⟨m.pc, m.fetch⟩) ∧
    ((∀ p ∈ instructionSet, ¬p.Matches m.fetch) →
      m.cycle = (.error (.unrecognised m.fetch), m) ∧
      ∀ run : List Stimulus,
        (∀ result ∈ m.results run, result = .error (.unrecognised m.fetch)) ∧
        m.after run = { m with timers := (m.after run).timers, keys := (m.after run).keys }) ∧
    m.cycleChecked? = some m.cycle := by
  refine ⟨m.fetch_spec, ?_, ?_, m.cycleChecked?_eq_some⟩
  · rintro ⟨p, hp, hw⟩
    have hop : m.fetch.operation?.isSome := by
      rw [Option.isSome_iff_ne_none]
      intro hnone
      exact Word.operation?_eq_none_iff.mp hnone p hp hw
    rw [Machine.cycle_eq_of_isSome hr hop]
  · intro hnone
    have hop := Word.operation?_eq_none_iff.mpr hnone
    exact ⟨by simp only [Machine.cycle, hop], Machine.run_of_operation?_eq_none hop⟩

/-- A machine whose word wraps around at the end of memory and is not an instruction. -/
def Machine.astray : Machine :=
  { Machine.ofProgram [] (.cyclic []) with
    memory := Memory.zero.writeMany 0xFFFF [0xE0, 0xF1]
    pc := 0xFFFF }

/-- The machine fails on the word `E0F1` again and again. -/
theorem cycle_executes_or_changes_nothing_at_wrap :
    Machine.astray.cycle = (.error (.unrecognised 0xE0F1), Machine.astray) ∧
    Machine.astray.results [.cycle, .tick, .cycle, .keys 5, .cycle] =
      .replicate 3 (.error (.unrecognised 0xE0F1)) := by
  have hr : Machine.astray.random.Reliable := fun _ => rfl
  have hword : Machine.astray.fetch = 0xE0F1 := by decide +kernel
  obtain ⟨-, -, hfail, -⟩ := cycle_executes_or_changes_nothing Machine.astray hr
  obtain ⟨hcycle, hrun⟩ := hfail (by rw [hword]; decide)
  rw [hword] at hcycle hrun
  exact ⟨hcycle, List.eq_replicate_iff.mpr ⟨rfl, (hrun _).1⟩⟩

end Chip8
