import Chip8.Machine.Cycle

/-!
# What a cycle does

A cycle either fails and leaves the machine alone, or executes the operation of the word at the
program counter and remembers the keys. What an operation does to one component of the machine is
said here once, for all operations, so that invariants need not look at the operations again.
-/

namespace Chip8

/-! ## Random sources -/

/-- A random source that delivers every word delivers a byte, and goes on delivering. -/
theorem RandomSource.Reliable.drawByte {s : RandomSource} (h : s.Reliable) :
    ∃ byte, s.drawByte? = some (byte, { s with drawn := s.drawn + 1 }) := by
  obtain ⟨w, hw⟩ := Option.isSome_iff_exists.mp (h s.drawn)
  exact ⟨w.toUInt8, by rw [RandomSource.drawByte?, hw]; rfl⟩

namespace Machine

/-! ## Effects of operations -/

/-- The call stack after an operation. -/
def stackAfter (m : Machine) : Operation → CallStack
  | .call => m.stack.push (m.pc + Word.width)
  | .ret => m.stack.drop
  | _ => m.stack

theorem execute_random_iff {m : Machine} {w : Word} {after : Machine} :
    m.execute w .random = .ok after ↔
      ∃ byte random, m.random.drawByte? = some (byte, random) ∧
        after = ({ m with random := random }.setReg w.x (byte &&& w.byte)).next := by
  simp only [execute]
  split
  · next byte random h =>
    constructor
    · intro hok
      exact ⟨byte, random, h, (Except.ok.inj hok).symm⟩
    · rintro ⟨byte', random', h', rfl⟩
      rw [h] at h'
      obtain ⟨rfl, rfl⟩ := Prod.mk.inj (Option.some.inj h')
      rfl
  · next h => simp [h]

/-- What the operations have in common, one field for each component of the machine that invariants
look at. -/
structure Effect (m : Machine) (operation : Operation) (after : Machine) : Prop where
  /-- Only calls and returns touch the call stack. -/
  stack : after.stack = m.stackAfter operation
  /-- No operation changes the keys that are held. -/
  keys : after.keys = m.keys
  /-- Only one operation draws from the random source. -/
  random : operation ≠ .random → after.random = m.random

theorem effect_of_execute {m after : Machine} {w : Word} {operation : Operation}
    (h : m.execute w operation = .ok after) : Effect m operation after := by
  cases operation with
  | random =>
    obtain ⟨byte, random, -, rfl⟩ := execute_random_iff.mp h
    exact ⟨rfl, rfl, fun hne => absurd rfl hne⟩
  | restore =>
    simp only [execute] at h
    -- Comparing fields would compute the new registers, so they get a name first.
    generalize m.registers.overwrite _ = registers at h
    obtain rfl := Except.ok.inj h
    exact ⟨rfl, rfl, fun _ => rfl⟩
  | awaitKey =>
    obtain rfl := Except.ok.inj h
    rw [Machine.awaitKey]
    split <;> exact ⟨rfl, rfl, fun _ => rfl⟩
  | _ =>
    obtain rfl := Except.ok.inj h
    exact ⟨rfl, rfl, fun _ => rfl⟩

/-- A random source that delivers every word is left as one. -/
theorem reliable_of_execute {m after : Machine} {w : Word} {operation : Operation}
    (h : m.execute w operation = .ok after) (hr : m.random.Reliable) : after.random.Reliable := by
  by_cases hop : operation = .random
  · subst hop
    obtain ⟨byte, random, hdraw, rfl⟩ := execute_random_iff.mp h
    obtain ⟨byte', hdraw'⟩ := hr.drawByte
    rw [hdraw] at hdraw'
    obtain ⟨-, rfl⟩ := Prod.mk.inj (Option.some.inj hdraw')
    exact hr
  · rw [(effect_of_execute h).random hop]
    exact hr

/-- With a random source that delivers every word no operation fails. -/
theorem execute_isOk {m : Machine} (hr : m.random.Reliable) (w : Word) (operation : Operation) :
    ∃ after, m.execute w operation = .ok after := by
  cases operation with
  | random =>
    obtain ⟨byte, hdraw⟩ := hr.drawByte
    exact ⟨_, execute_random_iff.mpr ⟨byte, _, hdraw, rfl⟩⟩
  | _ => exact ⟨_, rfl⟩

/-! ## Cycles -/

/-- A cycle that meets a word which is not an instruction fails with that word. -/
theorem cycle_of_operation?_eq_none {m : Machine} (hop : m.fetch.operation? = none) :
    m.cycle = (.error (.unrecognised m.fetch), m) := by
  simp only [cycle, hop]

/-- A cycle fails and changes nothing, or it executes an operation. -/
theorem cycle_cases (m : Machine) :
    (∃ fault, m.cycle = (.error fault, m)) ∨
    ∃ operation after, m.fetch.operation? = some operation ∧
      m.execute m.fetch operation = .ok after ∧
      m.cycle = (.ok ⟨m.pc, m.fetch⟩, { after with lastKeys := m.keys }) := by
  rcases hop : m.fetch.operation? with _ | operation
  · exact Or.inl ⟨.unrecognised m.fetch, cycle_of_operation?_eq_none hop⟩
  · rcases hex : m.execute m.fetch operation with fault | after
    · exact Or.inl ⟨fault, by simp only [cycle, hop, hex]⟩
    · exact Or.inr ⟨operation, after, rfl, hex, by simp only [cycle, hop, hex]⟩

/-- A cycle that succeeds reports where it fetched what. -/
theorem cycle_ok {m after : Machine} {e : Executed} (h : m.cycle = (.ok e, after)) :
    e = ⟨m.pc, m.fetch⟩ ∧ ∃ operation executed, m.fetch.operation? = some operation ∧
      m.execute m.fetch operation = .ok executed ∧ after = { executed with lastKeys := m.keys } := by
  rcases m.cycle_cases with ⟨fault, hc⟩ | ⟨operation, executed, hop, hex, hc⟩
  · rw [hc] at h
    exact absurd (Prod.mk.inj h).1 (by simp)
  · rw [hc] at h
    obtain ⟨he, rfl⟩ := Prod.mk.inj h
    exact ⟨(Except.ok.inj he).symm, operation, executed, hop, hex, rfl⟩

/-- A cycle that fails leaves the machine alone. -/
theorem cycle_error {m after : Machine} {fault : Fault} (h : m.cycle = (.error fault, after)) :
    after = m := by
  rcases m.cycle_cases with ⟨fault', hc⟩ | ⟨operation, executed, hop, hex, hc⟩
  · rw [hc] at h
    exact (Prod.mk.inj h).2.symm
  · rw [hc] at h
    exact absurd (Prod.mk.inj h).1 (by simp)

/-- Only drawing a random byte can fail. -/
theorem execute_error {m : Machine} {w : Word} {operation : Operation} {fault : Fault}
    (h : m.execute w operation = .error fault) : fault = .randomFailed := by
  cases operation with
  | random =>
    simp only [execute] at h
    split at h
    · exact absurd h (by simp)
    · exact (Except.error.inj h).symm
  | _ => exact absurd h (by simp [execute])

/-- A cycle that meets a word which is not an instruction reports the word it has fetched. -/
theorem cycle_unrecognised {m after : Machine} {word : Word}
    (h : m.cycle = (.error (.unrecognised word), after)) : word = m.fetch := by
  rcases hop : m.fetch.operation? with _ | operation
  · simp only [cycle, hop] at h
    exact (Fault.unrecognised.inj (Except.error.inj (Prod.mk.inj h).1)).symm
  · rcases hex : m.execute m.fetch operation with fault | executed
    · simp only [cycle, hop, hex] at h
      have hfault := Except.error.inj (Prod.mk.inj h).1
      rw [execute_error hex] at hfault
      exact absurd hfault (by simp)
    · simp only [cycle, hop, hex] at h
      exact absurd (Prod.mk.inj h).1 (by simp)

/-- A cycle does not change the keys that are held. -/
@[simp] theorem keys_cycle (m : Machine) : m.cycle.2.keys = m.keys := by
  rcases m.cycle_cases with ⟨fault, hc⟩ | ⟨operation, executed, -, hex, hc⟩
  · rw [hc]
  · rw [hc]
    exact (effect_of_execute hex).keys

/-- With a random source that delivers every word every instruction is executed. -/
theorem cycle_eq_of_isSome {m : Machine} (hr : m.random.Reliable)
    (hop : m.fetch.operation?.isSome) : m.cycle = (.ok ⟨m.pc, m.fetch⟩, m.cycle.2) := by
  obtain ⟨operation, hop⟩ := Option.isSome_iff_exists.mp hop
  obtain ⟨after, hex⟩ := execute_isOk hr m.fetch operation
  simp only [cycle, hop, hex]

/-- With a random source that delivers every word a cycle fails only on a word that is not an
instruction, and the source stays one that does. -/
theorem reliable_cycle {m : Machine} (hr : m.random.Reliable) :
    m.cycle.2.random.Reliable ∧ m.cycle.1 ≠ .error .randomFailed := by
  rcases hop : m.fetch.operation? with _ | operation
  · rw [cycle_of_operation?_eq_none hop]
    exact ⟨hr, by simp⟩
  · obtain ⟨after, hex⟩ := execute_isOk hr m.fetch operation
    have hc : m.cycle = (.ok ⟨m.pc, m.fetch⟩, { after with lastKeys := m.keys }) := by
      simp only [cycle, hop, hex]
    rw [hc]
    exact ⟨(reliable_of_execute hex hr :), by simp⟩

end Machine

end Chip8
