import Chip8.Proofs.Stimulus

/-!
# Painting does not interfere

Whoever takes a frame resets the flag of the display. No instruction looks at that flag, so the
machine runs as it would if no frame had been taken; only the flag itself tells the difference. And
that difference is no loss: where the flag is down although the display was touched, the last frame
that was worth painting shows what is on the display.
-/

namespace Chip8.Machine

variable {m n : Machine} {picture : Option Frame}

/-- The machine with another flag on its display. -/
def withFlag (m : Machine) (flag : Bool) : Machine :=
  { m with display := { m.display with dirty := flag } }

/-- What is left of a machine when its flag is not looked at. -/
def seen (m : Machine) : Machine := m.withFlag false

theorem seen_eq_iff : m.seen = n.seen ↔ n = m.withFlag n.display.dirty := by
  constructor
  · intro h
    calc n = n.seen.withFlag n.display.dirty := rfl
      _ = m.seen.withFlag n.display.dirty := by rw [h]
      _ = m.withFlag n.display.dirty := rfl
  · intro h
    rw [h]
    rfl

/-! ## Operations and cycles -/

/-- The operations that touch the display. -/
def touchesDisplay : Operation → Bool
  | .clear | .draw => true
  | _ => false

theorem execute_withFlag (flag : Bool) (w : Word) (operation : Operation) :
    (m.withFlag flag).execute w operation =
      (m.execute w operation).map (·.withFlag (touchesDisplay operation || flag)) := by
  cases operation with
  | random =>
    simp only [execute, withFlag]
    cases m.random.drawByte? <;> rfl
  | awaitKey =>
    simp only [execute, awaitKey, withFlag]
    split <;> rfl
  | restore =>
    simp only [execute, withFlag]
    generalize m.registers.overwrite _ = registers
    rfl
  | _ => rfl

theorem display_of_execute {after : Machine} {w : Word} {operation : Operation}
    (h : m.execute w operation = .ok after) (htouches : touchesDisplay operation = false) :
    after.display = m.display := by
  cases operation with
  | clear | draw => exact absurd htouches (by decide)
  | random =>
    obtain ⟨byte, random, -, rfl⟩ := execute_random_iff.mp h
    rfl
  | restore =>
    simp only [execute] at h
    generalize m.registers.overwrite _ = registers at h
    obtain rfl := Except.ok.inj h
    rfl
  | awaitKey =>
    obtain rfl := Except.ok.inj h
    rw [Machine.awaitKey]
    split <;> rfl
  | _ =>
    obtain rfl := Except.ok.inj h
    rfl

/-- A cycle either touches the display or leaves it alone, and it goes the same way whatever the flag
is. -/
theorem cycle_withFlag (m : Machine) : ∃ touched : Bool,
    (touched = false → m.cycle.2.display = m.display) ∧
    ∀ flag, (m.withFlag flag).cycle = (m.cycle.1, m.cycle.2.withFlag (touched || flag)) := by
  have hfetch (flag : Bool) : (m.withFlag flag).fetch = m.fetch := rfl
  rcases hop : m.fetch.operation? with _ | operation
  · refine ⟨false, fun _ => ?_, fun flag => ?_⟩
    · simp only [cycle, hop]
    · simp only [cycle, hfetch, hop, Bool.false_or]
  · rcases hex : m.execute m.fetch operation with fault | after
    · refine ⟨false, fun _ => ?_, fun flag => ?_⟩
      · simp only [cycle, hop, hex]
      · simp only [cycle, hfetch, hop, execute_withFlag, hex, Except.map, Bool.false_or]
    · refine ⟨touchesDisplay operation, fun htouches => ?_, fun flag => ?_⟩
      · simp only [cycle, hop, hex]
        exact display_of_execute hex htouches
      · simp only [cycle, hfetch, hop, execute_withFlag, hex, Except.map]
        rfl

/-! ## Runs -/

/-- What it means that `n` is the machine `m` after some frames of it were taken, the last one worth
painting being `picture`. -/
structure PaintedAs (m n : Machine) (picture : Option Frame) : Prop where
  /-- Only the flag may differ. -/
  seen : m.seen = n.seen
  /-- It is not raised by taking frames. -/
  raised : n.display.dirty = true → m.display.dirty = true
  /-- Where it was lowered, the picture shows the display. -/
  lowered : m.display.dirty = true → n.display.dirty = false →
    ∃ frame, picture = some frame ∧ frame.bitmap = n.display.bitmap

namespace PaintedAs

theorem refl (m : Machine) (picture : Option Frame) : PaintedAs m m picture where
  seen := rfl
  raised := id
  lowered h h' := by
    rw [h] at h'
    exact absurd h' (by decide)

/-- Taking a frame, and painting it if it is worth it. -/
theorem snapshot (h : PaintedAs m n picture) :
    PaintedAs m n.snapshot.2 (if n.display.dirty then some n.snapshot.1 else picture) where
  seen := h.seen
  raised hraised := absurd hraised (by simp [Machine.snapshot, Display.snapshot])
  lowered hdirty _ := by
    by_cases hn : n.display.dirty = true
    · rw [if_pos hn]
      exact ⟨_, rfl, rfl⟩
    · rw [if_neg hn]
      exact h.lowered hdirty (by simpa using hn)

theorem bitmap (h : PaintedAs m n picture) : m.display.bitmap = n.display.bitmap := by
  rw [seen_eq_iff.mp h.seen]
  rfl

theorem cycle (h : PaintedAs m n picture) :
    m.cycle.1 = n.cycle.1 ∧ PaintedAs m.cycle.2 n.cycle.2 picture := by
  obtain ⟨touched, hdisplay, hcycle⟩ := m.cycle_withFlag
  have hm : m.cycle.2.display.dirty = (touched || m.display.dirty) := by
    calc m.cycle.2.display.dirty = (m.withFlag m.display.dirty).cycle.2.display.dirty := rfl
      _ = (touched || m.display.dirty) := by rw [hcycle]; rfl
  have hn : n.cycle = (m.cycle.1, m.cycle.2.withFlag (touched || n.display.dirty)) := by
    rw [← hcycle, ← seen_eq_iff.mp h.seen]
  rw [hn]
  refine ⟨rfl, rfl, fun hraised => ?_, fun hdirty hlowered => ?_⟩
  · rw [hm, Bool.or_eq_true]
    exact ((Bool.or_eq_true _ _).mp hraised).imp_right h.raised
  · obtain ⟨htouched, hn⟩ := Bool.or_eq_false_iff.mp hlowered
    rw [hm, htouched, Bool.false_or] at hdirty
    obtain ⟨frame, hpicture, hframe⟩ := h.lowered hdirty hn
    refine ⟨frame, hpicture, ?_⟩
    calc frame.bitmap = m.display.bitmap := hframe.trans h.bitmap.symm
      _ = m.cycle.2.display.bitmap := by rw [hdisplay htouched]

theorem tick (h : PaintedAs m n picture) : PaintedAs m.tick n.tick picture where
  seen := congrArg Machine.tick h.seen
  raised := h.raised
  lowered := h.lowered

theorem setKeys (h : PaintedAs m n picture) (mask : KeyMask) :
    PaintedAs (m.setKeys mask) (n.setKeys mask) picture where
  seen := congrArg (·.setKeys mask) h.seen
  raised := h.raised
  lowered := h.lowered

/-- A run goes the same way whatever frames are taken before it. -/
theorem run (h : PaintedAs m n picture) (run : List Stimulus) :
    m.results run = n.results run ∧ PaintedAs (m.after run) (n.after run) picture := by
  induction run generalizing m n with
  | nil => exact ⟨rfl, h⟩
  | cons s run ih =>
    cases s with
    | cycle =>
      obtain ⟨hresult, hnext⟩ := h.cycle
      obtain ⟨hresults, hafter⟩ := ih hnext
      exact ⟨List.cons_eq_cons.mpr ⟨hresult, hresults⟩, hafter⟩
    | tick => exact ih h.tick
    | keys mask => exact ih (h.setKeys mask)

end PaintedAs

end Chip8.Machine
