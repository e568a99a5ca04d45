/-!
# The keypad

Sixteen keys, held down or not. A state of the keypad is a mask with bit `k` for key `k`.
-/

namespace Chip8

/-- Which of the sixteen keys are held down: bit `k` for key `k`. -/
abbrev KeyMask := UInt16

namespace KeyMask

/-- Whether key `k` is held. There is no key from sixteen on, so none of those is. -/
def holds (keys : KeyMask) (k : Nat) : Bool := keys.toNat.testBit k

/-- The keys held before and no longer held now. -/
def released (before now : KeyMask) : KeyMask := before &&& ~~~now

/-- The lowest key of a mask. -/
def lowest? (keys : KeyMask) : Option (Fin 16) :=
  (List.finRange 16).find? fun k => holds keys k

/-- Key numbers from sixteen on name no key. -/
theorem holds_eq_false_of_le (keys : KeyMask) {k : Nat} (h : 16 ≤ k) : holds keys k = false := by
  apply Nat.testBit_lt_two_pow
  have hk : (2 : Nat) ^ 16 ≤ 2 ^ k := Nat.pow_le_pow_right (by decide) h
  have := keys.toNat_lt
  omega

end KeyMask

end Chip8
