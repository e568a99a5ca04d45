import Chip8.Proofs.InstructionSet
import Chip8.Proofs.Stimulus
import Chip8.Rom
import Mathlib.Data.List.Chain

/-!
# Waiting for a key

A cycle samples which keys are held, and a machine remembers the sample of its last cycle that
succeeded. The instruction `Fx0A` compares the two: it stays where it is until some key was held in
the last sample and is no longer held, and then loads the number of the lowest such key.
-/

namespace Chip8

/-! ## Masks -/

namespace KeyMask

theorem holds_zero (k : Nat) : holds 0 k = false := Nat.zero_testBit k

/-- A mask is empty when it holds none of the sixteen keys. -/
theorem eq_zero_of_holds {keys : KeyMask} (h : ∀ k : Fin 16, holds keys k = false) : keys = 0 := by
  apply UInt16.toNat_inj.mp
  apply Nat.eq_of_testBit_eq
  intro k
  rw [show (0 : UInt16).toNat = 0 from rfl, Nat.zero_testBit]
  by_cases hk : k < 16
  · exact h ⟨k, hk⟩
  · exact holds_eq_false_of_le keys (Nat.le_of_not_lt hk)

/-- Only the empty mask has no lowest key. -/
theorem lowest?_eq_none_iff {keys : KeyMask} : keys.lowest? = none ↔ keys = 0 := by
  rw [lowest?, List.find?_eq_none]
  constructor
  · intro h
    apply eq_zero_of_holds
    intro k
    simpa using h k (List.mem_finRange k)
  · rintro rfl k -
    simp [holds_zero]

end KeyMask

/-! ## Samples -/

/-- The masks that the cycles of a run sample, when `held` is held at its beginning. -/
def sampled (held : KeyMask) : List Stimulus → List KeyMask
  | [] => []
  | .cycle :: run => held :: sampled held run
  | .tick :: run => sampled held run
  | .keys mask :: run => sampled mask run

namespace Machine

/-- The machine is about to wait for a key and to store it in register `x`. -/
structure AwaitsKey (m : Machine) (x : RegisterIndex) : Prop where
  operation : m.fetch.operation? = some .awaitKey
  register : m.fetch.x = x

theorem AwaitsKey.cycle {m : Machine} {x : RegisterIndex} (h : m.AwaitsKey x) :
    m.cycle = (.ok ⟨m.pc, m.fetch⟩, { m.awaitKey x with lastKeys := m.keys }) := by
  simp only [Machine.cycle, h.operation, execute, h.register]

/-- While no key is released the machine stays where it is. -/
theorem awaitKey_of_eq_zero {m : Machine} (h : KeyMask.released m.lastKeys m.keys = 0)
    (x : RegisterIndex) : m.awaitKey x = m := by
  rw [awaitKey, KeyMask.lowest?_eq_none_iff.mpr h]

theorem awaitKey_of_ne_zero {m : Machine} (h : KeyMask.released m.lastKeys m.keys ≠ 0)
    (x : RegisterIndex) :
    ∃ key : Fin 16, (KeyMask.released m.lastKeys m.keys).lowest? = some key ∧
      m.awaitKey x = (m.setReg x key.val.toUInt8).next := by
  rcases hlow : (KeyMask.released m.lastKeys m.keys).lowest? with _ | key
  · exact absurd (KeyMask.lowest?_eq_none_iff.mp hlow) h
  · exact ⟨key, rfl, by rw [awaitKey, hlow]⟩

/-- In a run in which no cycle sees a key released, a waiting machine only changes its keys and its
timers, and fetches the same instruction again in every cycle. -/
theorem AwaitsKey.run {m : Machine} {x : RegisterIndex} (h : m.AwaitsKey x) (run : List Stimulus)
    (hheld : (m.lastKeys :: sampled m.keys run).IsChain
      fun before now => KeyMask.released before now = 0) :
    m.after run = { m with
      timers := (m.after run).timers
      keys := (m.after run).keys
      lastKeys := (sampled m.keys run).getLastD m.lastKeys } ∧
    ∀ result ∈ m.results run, result = .ok ⟨m.pc, m.fetch⟩ := by
  induction run generalizing m with
  | nil => exact ⟨rfl, by simp [results]⟩
  | cons s run ih =>
    cases s with
    | cycle =>
      obtain ⟨hfirst, hrest⟩ := List.isChain_cons_cons.mp hheld
      have hc := h.cycle
      rw [awaitKey_of_eq_zero hfirst] at hc
      have hreact := react_cycle hc
      obtain ⟨hafter, hres⟩ := @ih { m with lastKeys := m.keys } ⟨h.operation, h.register⟩ hrest
      rw [sampled, List.getLastD_cons, after_cons, hreact]
      refine ⟨hafter, ?_⟩
      intro result hmem
      rw [results, hreact, hc, List.mem_cons] at hmem
      rcases hmem with rfl | hmem
      · rfl
      · exact hres result hmem
    | tick => exact @ih m.tick ⟨h.operation, h.register⟩ hheld
    | keys mask => exact @ih (m.setKeys mask) ⟨h.operation, h.register⟩ hheld

end Machine

/-! ## Main statement -/

end Chip8
