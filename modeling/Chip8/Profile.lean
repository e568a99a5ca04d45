/-!
# Profiles

The settings of a session: how fast instructions are executed, how fast the timers count, and whether
the machine starts paused. Times are whole nanoseconds throughout the library.
-/

namespace Chip8

/-- Nanoseconds in a second. -/
def second : Nat := 1000000000

/-- The settings of a session. Both rates are positive. -/
structure Profile where
  /-- Instructions a second. -/
  ips : UInt32
  /-- Timer ticks a second. -/
  timerHz : UInt32
  /-- Whether the machine starts paused. -/
  startPaused : Bool
  ips_pos : 0 < ips.toNat
  timerHz_pos : 0 < timerHz.toNat
deriving DecidableEq

namespace Profile

/-- A rate of zero is raised to one. -/
def positiveRate (rate : UInt32) : UInt32 := if rate = 0 then 1 else rate

theorem positiveRate_pos (rate : UInt32) : 0 < (positiveRate rate).toNat := by
  unfold positiveRate
  split
  · decide
  · next h =>
    have : rate.toNat ≠ 0 := fun h' => h (UInt32.toNat_inj.mp h')
    omega

/-- A profile with the given rates, raised to one where they are zero. -/
def ofRates (ips timerHz : UInt32) (startPaused : Bool) : Profile where
  ips := positiveRate ips
  timerHz := positiveRate timerHz
  startPaused := startPaused
  ips_pos := positiveRate_pos ips
  timerHz_pos := positiveRate_pos timerHz

/-- The instruction rate that is used when none is given. -/
def defaultIps : UInt32 := 1000

/-- The timer rate that is used when none is given. -/
def defaultTimerHz : UInt32 := 60

/-- The profile that is used when nothing is given. -/
def standard : Profile := ofRates defaultIps defaultTimerHz false

/-- Time between two instructions. -/
def cyclePeriod (p : Profile) : Nat := second / p.ips.toNat

/-- Time between two timer ticks. -/
def timerPeriod (p : Profile) : Nat := second / p.timerHz.toNat

end Profile

end Chip8
