/-!
# Timers

Two bytes that count down to zero and stay there.
-/

namespace Chip8

/-- The delay timer and the sound timer. -/
structure Timers where
  /-- The delay timer, which programs can read. -/
  delay : UInt8
  /-- The sound timer. -/
  sound : UInt8
deriving DecidableEq, Repr

namespace Timers

/-- Both timers at rest. -/
def zero : Timers := ⟨0, 0⟩

/-- One less, but never below zero. -/
def countDown (t : UInt8) : UInt8 := if t = 0 then 0 else t - 1

/-- Counts both timers down by one. -/
def tick (t : Timers) : Timers := ⟨countDown t.delay, countDown t.sound⟩

/-- Counts both timers down several times. After 255 times both stand at zero and stay there. -/
def ticks (t : Timers) (count : Nat) : Timers := Nat.repeat tick (min count 255) t

/-- Counting down is subtraction that stops at zero. -/
theorem toNat_countDown (t : UInt8) : (countDown t).toNat = t.toNat - 1 := by
  unfold countDown
  split
  · next h => simp [h]
  · next h =>
    have hpos : (1 : UInt8) ≤ t := by
      have : t.toNat ≠ 0 := fun h' => h (UInt8.toNat_inj.mp h')
      rw [UInt8.le_iff_toNat_le]
      exact Nat.one_le_iff_ne_zero.mpr this
    rw [UInt8.toNat_sub_of_le _ _ hpos]
    rfl

theorem toNat_delay_repeat_tick (t : Timers) (count : Nat) :
    (Nat.repeat tick count t).delay.toNat = t.delay.toNat - count := by
  induction count with
  | zero => rfl
  | succ count ih =>
    have step := toNat_countDown (Nat.repeat tick count t).delay
    rw [ih] at step
    exact step.trans (by omega)

theorem toNat_sound_repeat_tick (t : Timers) (count : Nat) :
    (Nat.repeat tick count t).sound.toNat = t.sound.toNat - count := by
  induction count with
  | zero => rfl
  | succ count ih =>
    have step := toNat_countDown (Nat.repeat tick count t).sound
    rw [ih] at step
    exact step.trans (by omega)

/-- Counting down several times is counting down that often. -/
theorem ticks_eq_repeat (t : Timers) (count : Nat) : t.ticks count = Nat.repeat tick count t := by
  have delay : (t.ticks count).delay = (Nat.repeat tick count t).delay := by
    apply UInt8.toNat_inj.mp
    rw [ticks, toNat_delay_repeat_tick, toNat_delay_repeat_tick]
    have := t.delay.toNat_lt
    omega
  have sound : (t.ticks count).sound = (Nat.repeat tick count t).sound := by
    apply UInt8.toNat_inj.mp
    rw [ticks, toNat_sound_repeat_tick, toNat_sound_repeat_tick]
    have := t.sound.toNat_lt
    omega
  calc t.ticks count = ⟨(t.ticks count).delay, (t.ticks count).sound⟩ := rfl
    _ = _ := by rw [delay, sound]

end Timers

end Chip8
