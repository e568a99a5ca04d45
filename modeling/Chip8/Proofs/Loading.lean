import Chip8.Proofs.Memory
import Chip8.Rom
import Mathlib.Data.List.Basic
import Mathlib.Data.Nat.Init

/-!
# Loading depends only on the bytes

A reader hands out its bytes in pieces of any size, and may be interrupted in between. What comes of
loading a program depends only on the bytes that were handed out before the reader ended, and on
whether it ended by a failure. Of these bytes no more are taken than one above what fits, and once they
are taken nothing that the reader would do next makes a difference.
-/

namespace Chip8

/-! ## What a reader hands out -/

namespace ReadOutcome

/-- Reading ends here. -/
def Ends : ReadOutcome → Prop
  | chunk bytes => bytes = []
  | interrupted => False
  | failed _ => True

instance : DecidablePred Ends
  | chunk bytes => inferInstanceAs (Decidable (bytes = []))
  | interrupted => inferInstanceAs (Decidable False)
  | failed _ => inferInstanceAs (Decidable True)

/-- The bytes that are handed out. -/
def bytes : ReadOutcome → List UInt8
  | chunk bytes => bytes
  | interrupted | failed _ => []

/-- Why no more will be handed out, if that is a failure. -/
def failure? : ReadOutcome → Option String
  | failed reason => some reason
  | chunk _ | interrupted => none

end ReadOutcome

/-- All bytes that are handed out before the reader ends. -/
def delivered (stream : List ReadOutcome) : List UInt8 :=
  (stream.takeWhile fun outcome => ¬outcome.Ends).flatMap ReadOutcome.bytes

/-- The failure by which the reader ends, if it does so by one. -/
def failureOf (stream : List ReadOutcome) : Option String :=
  (stream.find? fun outcome => outcome.Ends).bind ReadOutcome.failure?

section Streams

variable {outcome : ReadOutcome} {stream : List ReadOutcome}

theorem delivered_of_ends (h : outcome.Ends) : delivered (outcome :: stream) = [] := by
  simp [delivered, h]

theorem delivered_of_not_ends (h : ¬outcome.Ends) :
    delivered (outcome :: stream) = outcome.bytes ++ delivered stream := by
  simp [delivered, h]

theorem failureOf_of_ends (h : outcome.Ends) : failureOf (outcome :: stream) = outcome.failure? := by
  simp [failureOf, h]

theorem failureOf_of_not_ends (h : ¬outcome.Ends) : failureOf (outcome :: stream) = failureOf stream := by
  simp [failureOf, h]

/-- Behind the end of a reader nothing counts. -/
theorem delivered_append_of_ends (h : ∃ outcome ∈ stream, outcome.Ends) (more : List ReadOutcome) :
    delivered (stream ++ more) = delivered stream ∧ failureOf (stream ++ more) = failureOf stream := by
  induction stream with
  | nil => simp at h
  | cons first rest ih =>
    rw [List.cons_append]
    by_cases hfirst : first.Ends
    · simp only [delivered_of_ends hfirst, failureOf_of_ends hfirst, and_self]
    · have hrest : ∃ outcome ∈ rest, outcome.Ends := by
        simpa [List.exists_mem_cons_iff, hfirst] using h
      obtain ⟨hbytes, hfailure⟩ := ih hrest
      rw [delivered_of_not_ends hfirst, delivered_of_not_ends hfirst, failureOf_of_not_ends hfirst,
        failureOf_of_not_ends hfirst, hbytes, hfailure]
      exact ⟨rfl, rfl⟩

/-- Before the end of a reader all bytes count. -/
theorem delivered_append_of_not_ends (h : ∀ outcome ∈ stream, ¬outcome.Ends)
    (more : List ReadOutcome) : delivered (stream ++ more) = delivered stream ++ delivered more := by
  induction stream with
  | nil => rfl
  | cons first rest ih =>
    obtain ⟨hfirst, hrest⟩ := List.forall_mem_cons.mp h
    rw [List.cons_append, delivered_of_not_ends hfirst, delivered_of_not_ends hfirst, ih hrest,
      List.append_assoc]

theorem delivered_prefix_append (stream more : List ReadOutcome) :
    delivered stream <+: delivered (stream ++ more) := by
  by_cases h : ∃ outcome ∈ stream, outcome.Ends
  · exact ⟨[], (List.append_nil _).trans (delivered_append_of_ends h more).1.symm⟩
  · rw [delivered_append_of_not_ends (by simpa using h)]
    exact List.prefix_append _ _

end Streams

/-! ## What is taken -/

/-- Of what is handed out as much is taken as is allowed, and a failure counts only if less came. -/
theorem Intake.ofStream_eq (limit : Nat) (stream : List ReadOutcome) :
    Intake.ofStream limit stream =
      ⟨(delivered stream).take limit,
        if limit ≤ (delivered stream).length then none else failureOf stream⟩ := by
  induction stream generalizing limit with
  | nil => simp [ofStream, delivered, failureOf]
  | cons outcome rest ih =>
    cases outcome with
    | failed reason =>
      have hends : (ReadOutcome.failed reason).Ends := trivial
      rw [ofStream, delivered_of_ends hends, failureOf_of_ends hends]
      by_cases hlimit : limit = 0 <;> simp [hlimit, ReadOutcome.failure?]
    | interrupted =>
      have hends : ¬ReadOutcome.interrupted.Ends := id
      have hbytes : ReadOutcome.interrupted.bytes ++ delivered rest = delivered rest := rfl
      rw [ofStream, delivered_of_not_ends hends, failureOf_of_not_ends hends, hbytes, ih]
      by_cases hlimit : limit = 0 <;> simp [hlimit]
    | chunk bytes =>
      rw [ofStream]
      by_cases hbytes : bytes = []
      · have hends : (ReadOutcome.chunk bytes).Ends := hbytes
        rw [if_pos hbytes, delivered_of_ends hends, failureOf_of_ends hends]
        simp [ReadOutcome.failure?]
      · have hends : ¬(ReadOutcome.chunk bytes).Ends := hbytes
        rw [if_neg hbytes, delivered_of_not_ends hends, failureOf_of_not_ends hends]
        -- what is still allowed behind this piece
        have hleft : limit - (bytes.take limit).length ≤ (delivered rest).length ↔
            limit ≤ bytes.length + (delivered rest).length := by
          rw [List.length_take]
          omega
        have htake : bytes.take limit ++ (delivered rest).take (limit - (bytes.take limit).length) =
            (bytes ++ delivered rest).take limit := by
          rw [List.take_append, List.length_take]
          congr 2
          omega
        simp only [ih, ReadOutcome.bytes, htake, hleft, List.length_append]

theorem Machine.load_eq (stream : List ReadOutcome) (random : RandomSource) :
    Machine.load stream random =
      if 3585 ≤ (delivered stream).length then .error (.tooLarge 3585)
      else match failureOf stream with
        | some reason => .error (.unreadable reason)
        | none => .ok (.ofProgram (delivered stream) random) := by
  have hmax : maxRomSize = 3584 := rfl
  rw [load, Intake.ofStream_eq, ofIntake, hmax, List.length_take]
  by_cases hlarge : 3585 ≤ (delivered stream).length
  · rw [Nat.min_eq_left hlarge, if_pos (Nat.lt_succ_self _), if_pos hlarge]
  · have hfits : (delivered stream).length ≤ 3585 := by omega
    have hless : ¬3584 < min 3585 (delivered stream).length := by omega
    cases failureOf stream <;>
      simp only [if_neg hless, if_neg hlarge, List.take_of_length_le hfits]

/-! ## What comes behind makes no difference -/

section Continuations

variable {stream : List ReadOutcome} (random : RandomSource)

theorem Machine.load_append_of_ends (h : ∃ outcome ∈ stream, outcome.Ends)
    (more : List ReadOutcome) : Machine.load (stream ++ more) random = Machine.load stream random := by
  obtain ⟨hbytes, hfailure⟩ := delivered_append_of_ends h more
  rw [load_eq, load_eq, hbytes, hfailure]

theorem Machine.load_append_of_large (h : 3585 ≤ (delivered stream).length)
    (more : List ReadOutcome) : Machine.load (stream ++ more) random = .error (.tooLarge 3585) := by
  have hmore : 3585 ≤ (delivered (stream ++ more)).length :=
    Nat.le_trans h (delivered_prefix_append stream more).length_le
  rw [load_eq, if_pos hmore]

end Continuations

/-- What a reader yields at first. -/
def firstOutcomes (reader : Nat → ReadOutcome) (n : Nat) : List ReadOutcome := (List.range n).map reader

section Readers

variable {reader : Nat → ReadOutcome}

theorem firstOutcomes_succ (n : Nat) :
    firstOutcomes reader (n + 1) = firstOutcomes reader n ++ [reader n] := by
  simp [firstOutcomes, List.range_succ]

theorem firstOutcomes_prefix_of_le {n k : Nat} (h : n ≤ k) :
    firstOutcomes reader n <+: firstOutcomes reader k := by
  induction k, h using Nat.le_induction with
  | base => exact List.prefix_rfl
  | succ k _ ih =>
    rw [firstOutcomes_succ]
    exact ih.trans (List.prefix_append _ _)

theorem ReadOutcome.bytes_ne_nil {outcome : ReadOutcome} (hends : ¬outcome.Ends)
    (hreader : outcome ≠ .interrupted) : outcome.bytes ≠ [] := by
  cases outcome with
  | chunk bytes => exact hends
  | interrupted => exact absurd rfl hreader
  | failed reason => exact absurd trivial hends

/-- A reader that is not interrupted forever ends or hands out any number of bytes. -/
theorem ends_or_delivers (h : ∀ n, ∃ k ≥ n, reader k ≠ .interrupted) (count : Nat) :
    ∃ n, (∃ outcome ∈ firstOutcomes reader n, outcome.Ends) ∨
      count ≤ (delivered (firstOutcomes reader n)).length := by
  induction count with
  | zero => exact ⟨0, .inr (Nat.zero_le _)⟩
  | succ count ih =>
    obtain ⟨n, hends | hcount⟩ := ih
    · exact ⟨n, .inl hends⟩
    obtain ⟨k, hk, hreader⟩ := h n
    refine ⟨k + 1, ?_⟩
    by_cases hends : ∃ outcome ∈ firstOutcomes reader (k + 1), outcome.Ends
    · exact .inl hends
    rw [firstOutcomes_succ] at hends ⊢
    have hbefore : ∀ outcome ∈ firstOutcomes reader k, ¬outcome.Ends := fun outcome hmem hend =>
      hends ⟨outcome, List.mem_append_left _ hmem, hend⟩
    have hlast : ¬(reader k).Ends := fun hend =>
      hends ⟨reader k, List.mem_append_right _ (List.mem_singleton_self _), hend⟩
    -- The first outcome that is no interruption brings at least one byte more.
    have hmore : 0 < (reader k).bytes.length :=
      List.length_pos_iff.mpr (ReadOutcome.bytes_ne_nil hlast hreader)
    have hfirst : firstOutcomes reader n <+: firstOutcomes reader k := firstOutcomes_prefix_of_le hk
    obtain ⟨between, hbetween⟩ := hfirst
    have hsofar := (delivered_prefix_append (firstOutcomes reader n) between).length_le
    rw [hbetween] at hsofar
    right
    rw [delivered_append_of_not_ends hbefore, delivered_of_not_ends hlast, List.length_append,
      List.length_append]
    omega

end Readers

/-! ## Memory behind loading -/

theorem font_length : font.length = 80 := rfl

theorem programStart_toNat : programStart.toNat = 512 := rfl

namespace Memory

variable {program : List UInt8} {c : Fin memorySize}

theorem get_ofProgram (hlen : program.length ≤ 3584) {k : Nat} (hk : k < program.length)
    (hc : c.val = 512 + k) : (ofProgram program).cells.get c = program[k] := by
  apply get_writeMany _ _ (Nat.le_trans hlen (by decide)) hk
  rw [hc, programStart_toNat, Nat.mod_eq_of_lt]
  simp only [memorySize]
  omega

theorem get_ofProgram_of_outside (hlen : program.length ≤ 3584)
    (hc : c.val < 512 ∨ 512 + program.length ≤ c.val) :
    (ofProgram program).cells.get c = (zero.writeMany 0 font).cells.get c := by
  apply get_writeMany_of_ne
  intro k hk
  rw [programStart_toNat, Nat.mod_eq_of_lt (by simp only [memorySize]; omega)]
  omega

theorem get_font {k : Nat} (hk : k < font.length) (hc : c.val = k) :
    (zero.writeMany 0 font).cells.get c = font[k] := by
  have hzero : (0 : UInt16).toNat = 0 := rfl
  apply get_writeMany _ _ (by decide) hk
  rw [hzero, Nat.zero_add, hc, Nat.mod_eq_of_lt (hc ▸ c.isLt)]

theorem get_font_of_le (hc : 80 ≤ c.val) : (zero.writeMany 0 font).cells.get c = 0 := by
  have hzero : (0 : UInt16).toNat = 0 := rfl
  rw [get_writeMany_of_ne]
  · exact Vector.getElem_replicate c.isLt
  · intro k hk
    rw [font_length] at hk
    rw [hzero, Nat.zero_add, Nat.mod_eq_of_lt (by simp only [memorySize]; omega)]
    omega

/-- Behind the font and a gap lies the program, and zeros behind it. -/
theorem cells_ofProgram (hlen : program.length ≤ 3584) :
    (ofProgram program).cells.toList =
      font ++ List.replicate 432 0 ++ program ++ List.replicate (3584 - program.length) 0 := by
  apply List.ext_getElem
  · simp only [Vector.length_toList, List.length_append, List.length_replicate, font_length, memorySize]
    omega
  · intro k hk hk'
    have hk4096 : k < memorySize := by simpa using hk
    have hcell : (ofProgram program).cells.toList[k] =
        (ofProgram program).cells.get ⟨k, hk4096⟩ := Vector.getElem_toList hk
    have houtside : k < 512 ∨ 512 + program.length ≤ k →
        (ofProgram program).cells.toList[k] =
          (zero.writeMany 0 font).cells.get ⟨k, hk4096⟩ :=
      fun h => hcell.trans (get_ofProgram_of_outside hlen h)
    simp only [List.getElem_append, List.length_append, List.length_replicate, font_length,
      List.getElem_replicate, Nat.reduceAdd]
    split
    · split
      · split
        · next hfont =>
          have hk80 : k < font.length := by rwa [font_length]
          exact (houtside (.inl (by omega))).trans (get_font hk80 rfl)
        · next hfont =>
          exact (houtside (.inl (by omega))).trans (get_font_of_le (Nat.le_of_not_lt hfont))
      · next hgap =>
        have hvalue : k = 512 + (k - 512) := by omega
        exact hcell.trans (get_ofProgram hlen (by omega) hvalue)
    · next hprogram =>
      have hbehind : 512 + program.length ≤ k := Nat.le_of_not_lt hprogram
      have hfont : 80 ≤ k := Nat.le_trans (by omega) hbehind
      exact (houtside (.inr hbehind)).trans (get_font_of_le hfont)

end Memory

/-! ## How loading ends -/

/-- A machine with a program in memory that has not executed anything: all of it but the memory and the
program counter stands at zero. -/
structure Machine.Fresh (m : Machine) (program : List UInt8) (random : RandomSource) : Prop where
  memory : m.memory.cells.toList =
    font ++ List.replicate 432 0 ++ program ++ List.replicate (3584 - program.length) 0
  pc : m.pc = 0x200
  registers : ∀ x, m.reg x = 0
  index : m.index = 0
  stack : (∀ k, m.stack.slots.get k = 0) ∧ m.stack.pointer = 0
  timers : m.timers.delay = 0 ∧ m.timers.sound = 0
  display : (∀ x y, m.display.bitmap.pixel x y = false) ∧ m.display.dirty = false
  keys : m.keys = 0 ∧ m.lastKeys = 0
  random : m.random = random

theorem Bitmap.pixel_blank (x y : Nat) : Bitmap.blank.pixel x y = false := by
  have hrow : Bitmap.blank.row y = 0 := by
    rw [Bitmap.row, Bitmap.blank, Vector.getElem?_replicate]
    split <;> rfl
  rw [Bitmap.pixel, hrow]
  exact BitVec.getMsbD_zero

theorem Machine.fresh_ofProgram {program : List UInt8} (hlen : program.length ≤ 3584)
    (random : RandomSource) : (Machine.ofProgram program random).Fresh program random where
  memory := Memory.cells_ofProgram hlen
  pc := rfl
  registers x := Vector.getElem_replicate x.isLt
  index := rfl
  stack := ⟨fun k => Vector.getElem_replicate k.isLt, rfl⟩
  timers := ⟨rfl, rfl⟩
  display := ⟨Bitmap.pixel_blank, rfl⟩
  keys := ⟨rfl, rfl⟩
  random := rfl

/-- What comes of loading depends only on the bytes that the reader hands out before it ends and on
whether it ends by a failure. It never takes more than 3585 bytes. If there are that many, the program
is refused as too large, whatever the reader would do next; if there are fewer and the reader fails, that
is the error; and else there is a fresh machine with these bytes in memory. Readers that agree in the
bytes taken, and in their failure if less is taken than is allowed, cannot be told apart, and every
reader that is not interrupted forever is read up to some point only. -/
theorem load_depends_on_bytes (stream : List ReadOutcome) (random : RandomSource) :
    (Intake.ofStream (maxRomSize + 1) stream).bytes = (delivered stream).take 3585 ∧
      (3585 ≤ (delivered stream).length → ∀ more : List ReadOutcome,
        Machine.load (stream ++ more) random = .error (.tooLarge 3585)) ∧
      ((delivered stream).length < 3585 →
        (∀ reason, failureOf stream = some reason →
          Machine.load stream random = .error (.unreadable reason)) ∧
        (failureOf stream = none →
          ∃ m, Machine.load stream random = .ok m ∧ m.Fresh (delivered stream) random)) ∧
      ((∃ outcome ∈ stream, outcome.Ends) → ∀ more : List ReadOutcome,
        Machine.load (stream ++ more) random = Machine.load stream random) ∧
      (∀ other : List ReadOutcome, (delivered other).take 3585 = (delivered stream).take 3585 →
        ((delivered stream).length < 3585 → failureOf other = failureOf stream) →
        Machine.load other random = Machine.load stream random) ∧
      (∀ reader : Nat → ReadOutcome, (∀ n, ∃ k ≥ n, reader k ≠ .interrupted) →
        ∃ n, ∀ more : List ReadOutcome,
          Machine.load (firstOutcomes reader n ++ more) random =
            Machine.load (firstOutcomes reader n) random) ∧
      (RomError.tooLarge 3585).messages =
        ["rom is too large (3585 bytes), max size is 3584 bytes"] := by
  refine ⟨?_, Machine.load_append_of_large random, fun hfits => ⟨?_, ?_⟩,
    Machine.load_append_of_ends random, ?_, ?_, by decide +kernel⟩
  · rw [Intake.ofStream_eq]
    rfl
  · intro reason hreason
    rw [Machine.load_eq, if_neg (by omega), hreason]
  · intro hnone
    refine ⟨.ofProgram (delivered stream) random, ?_, Machine.fresh_ofProgram (by omega) random⟩
    rw [Machine.load_eq, if_neg (by omega), hnone]
  · intro other hbytes hfailure
    have hlength : min 3585 (delivered other).length = min 3585 (delivered stream).length := by
      simpa only [List.length_take] using congrArg List.length hbytes
    rw [Machine.load_eq, Machine.load_eq]
    by_cases hlarge : 3585 ≤ (delivered stream).length
    · rw [if_pos hlarge, if_pos (by omega)]
    · have hsame : delivered other = delivered stream := by
        rwa [List.take_of_length_le (by omega), List.take_of_length_le (by omega)] at hbytes
      rw [hsame, hfailure (by omega)]
  · intro reader hreader
    obtain ⟨n, hends | hlarge⟩ := ends_or_delivers hreader 3585
    · exact ⟨n, Machine.load_append_of_ends random hends⟩
    · refine ⟨n, fun more => ?_⟩
      have hhere := Machine.load_append_of_large random hlarge []
      rw [List.append_nil] at hhere
      rw [Machine.load_append_of_large random hlarge more, hhere]

/-- A program in two pieces with an interruption between them is loaded like one in a single piece,
whatever stands behind its end. One that just fits is lost if the reader fails behind it, one that does
not fit is refused even then, and an endless one is not read forever. -/
theorem load_depends_on_bytes_at_limit :
    (∃ m, Machine.load [.chunk [0x12], .interrupted, .chunk [0x00], .chunk []] .broken = .ok m ∧
        m.Fresh [0x12, 0x00] .broken) ∧
      Machine.load [.chunk [0x12, 0x00]] .broken =
        Machine.load [.chunk [0x12], .interrupted, .chunk [0x00], .chunk []] .broken ∧
      Machine.load ([.chunk [0x12], .interrupted, .chunk [0x00], .chunk []] ++ [.failed "gone"])
        .broken = Machine.load [.chunk [0x12], .interrupted, .chunk [0x00], .chunk []] .broken ∧
      Machine.load [.chunk (List.replicate 3584 0), .failed "gone"] .broken =
        .error (.unreadable "gone") ∧
      Machine.load ([.chunk (List.replicate 3585 0)] ++ [.failed "gone"]) .broken =
        .error (.tooLarge 3585) ∧
      ∃ n, ∀ more, Machine.load (firstOutcomes (fun _ => .chunk [0]) n ++ more) .broken =
        Machine.load (firstOutcomes (fun _ => .chunk [0]) n) .broken := by
  obtain ⟨-, -, hsmall, hends, hsame, hendless, -⟩ :=
    load_depends_on_bytes [.chunk [0x12], .interrupted, .chunk [0x00], .chunk []] .broken
  have hfits := (load_depends_on_bytes [.chunk (List.replicate 3584 0), .failed "gone"] .broken).2.2.1
  have hlarge := (load_depends_on_bytes [.chunk (List.replicate 3585 0)] .broken).2.1
  have hpiece (n : Nat) : ¬(ReadOutcome.chunk (List.replicate (n + 1) 0)).Ends := List.cons_ne_nil _ _
  refine ⟨(hsmall (by decide)).2 rfl, hsame _ rfl fun _ => rfl, hends (by decide) _,
    (hfits ?_).1 _ ?_, hlarge ?_ _, hendless (fun _ => .chunk [0]) fun n => ⟨n, Nat.le_refl n, nofun⟩⟩
  · rw [delivered_of_not_ends (hpiece 3583), List.length_append, ReadOutcome.bytes,
      List.length_replicate]
    decide
  · exact failureOf_of_not_ends (hpiece 3583)
  · rw [delivered_of_not_ends (hpiece 3584), List.length_append, ReadOutcome.bytes,
      List.length_replicate]
    decide

end Chip8
