/-!
# Random sources

A random source is the sequence of 32-bit words it will hand out and the number it has handed out
already, so that its position is part of the state and can be compared. A source may fail to deliver
a word.
-/

namespace Chip8

/-- A sequence of random words and a position in it. -/
structure RandomSource where
  /-- The word with a given number, `none` where the source fails. -/
  word : Nat → Option UInt32
  /-- How many words were drawn. -/
  drawn : Nat

namespace RandomSource

/-- A source that hands out a list of words in a circle; an empty list counts as a single zero. -/
def cyclic (words : List UInt32) : RandomSource :=
  ⟨fun k => some (words[k % words.length]?.getD 0), 0⟩

/-- A source that never delivers. -/
def broken : RandomSource := ⟨fun _ => none, 0⟩

/-- Mixes the bits of a number so thoroughly that consecutive numbers look unrelated. -/
def scramble (z : UInt64) : UInt64 :=
  let z := (z ^^^ (z >>> 30)) * 0xBF58476D1CE4E5B9
  let z := (z ^^^ (z >>> 27)) * 0x94D049BB133111EB
  z ^^^ (z >>> 31)

/-- A source of pseudo-random words that depend on the seed. -/
def seeded (seed : UInt64) : RandomSource :=
  ⟨fun k => some (scramble (seed + (k.toUInt64 + 1) * 0x9E3779B97F4A7C15)).toUInt32, 0⟩

/-- Draws a byte: the low eight bits of the next word. -/
def drawByte? (s : RandomSource) : Option (UInt8 × RandomSource) :=
  (s.word s.drawn).map fun w => (w.toUInt8, { s with drawn := s.drawn + 1 })

/-- The source delivers every word. -/
def Reliable (s : RandomSource) : Prop := ∀ k, (s.word k).isSome

end RandomSource

end Chip8
