import Chip8.Proofs.Stimulus
import Chip8.Rom
import Mathlib.Data.List.Induction
import Mathlib.Data.List.Infix

/-!
# The call stack keeps the newest frames

A ring of 32 slots with a wrapping pointer behaves like a bounded stack from which the oldest frame
is dropped when it overflows. The abstract stack is computed from the executed instructions alone.
What ties it to the ring is that the ring delivers the abstract frames one after another when it is
popped; this survives pushes because a push writes to the slot just above the pointer, which is out
of reach for the next 31 pops. Nothing is said about what the ring delivers when the abstract stack
is empty.
-/

namespace Chip8

/-! ## Frames -/

/-- The instruction called a subroutine. -/
def Executed.IsCall (e : Executed) : Prop := e.word.operation? = some .call

/-- The instruction returned from a subroutine. -/
def Executed.IsReturn (e : Executed) : Prop := e.word.operation? = some .ret

instance (e : Executed) : Decidable e.IsCall := inferInstanceAs (Decidable (_ = _))

instance (e : Executed) : Decidable e.IsReturn := inferInstanceAs (Decidable (_ = _))

/-- The return addresses of calls that are still open, newest first. -/
abbrev Frames := List UInt16

namespace Frames

/-- Opens a frame, which drops the oldest one if there is no room for it. -/
def push (frames : Frames) (address : UInt16) : Frames := (address :: frames).take stackSize

/-- What an executed instruction does to the frames. -/
def record (frames : Frames) (e : Executed) : Frames :=
  if e.IsCall then frames.push (e.pc + Word.width)
  else if e.IsReturn then frames.tail
  else frames

/-- The frames that are open after some instructions, when none was open before. -/
def ofTrace (trace : List Executed) : Frames := trace.foldl record []

end Frames

/-- How many of the instructions called a subroutine. -/
def calls (trace : List Executed) : Nat := trace.countP fun e => e.IsCall

/-- How many of the instructions returned from a subroutine. -/
def returns (trace : List Executed) : Nat := trace.countP fun e => e.IsReturn

theorem Executed.IsCall.not_isReturn {e : Executed} (h : e.IsCall) : ¬e.IsReturn := by
  intro hr
  have heq := h.symm.trans hr
  simp at heq

theorem calls_append (past trace : List Executed) :
    calls (past ++ trace) = calls past + calls trace := List.countP_append

theorem returns_append (past trace : List Executed) :
    returns (past ++ trace) = returns past + returns trace := List.countP_append

theorem calls_singleton (e : Executed) : calls [e] = if e.IsCall then 1 else 0 := by
  simp [calls]

theorem returns_singleton (e : Executed) : returns [e] = if e.IsReturn then 1 else 0 := by
  simp [returns]

/-- No instruction returns from more than was called, and never are more than `depth` calls open. -/
def Nested (depth : Nat) (trace : List Executed) : Prop :=
  ∀ start, start <+: trace → returns start ≤ calls start ∧ calls start ≤ returns start + depth

instance (depth : Nat) (trace : List Executed) : Decidable (Nested depth trace) :=
  decidable_of_iff
    (∀ start ∈ trace.inits, returns start ≤ calls start ∧ calls start ≤ returns start + depth)
    (forall_congr' fun start => by rw [List.mem_inits])

/-! ## The ring -/

namespace CallStack

/-- The address in the slot that a pointer value stands for. -/
def read (s : CallStack) (pointer : UInt8) : UInt16 := s.slots.get (slot pointer)

theorem read_push (s : CallStack) (address : UInt16) (pointer : UInt8) :
    (s.push address).read pointer =
      if slot (s.pointer + 1) = slot pointer then address else s.read pointer :=
  s.get_slots_push address (slot pointer)

/-- Popping the stack again and again delivers these addresses. -/
def Delivers : CallStack → Frames → Prop
  | _, [] => True
  | s, address :: frames => s.top = address ∧ s.drop.Delivers frames

/-- What a stack delivers depends only on the slots from the pointer downwards. -/
theorem Delivers.congr {s t : CallStack} {frames : Frames} (h : s.Delivers frames)
    (hp : t.pointer = s.pointer)
    (hs : ∀ k < frames.length,
      t.read (s.pointer - UInt8.ofNat k) = s.read (s.pointer - UInt8.ofNat k)) :
    t.Delivers frames := by
  induction frames generalizing s t with
  | nil => trivial
  | cons address frames ih =>
    obtain ⟨htop, hdrop⟩ := h
    refine ⟨?_, ih hdrop ?_ fun k hk => ?_⟩
    · have h0 := hs 0 (by simp)
      rw [show UInt8.ofNat 0 = 0 from rfl, UInt8.sub_zero] at h0
      show t.read t.pointer = address
      rw [hp, h0]
      exact htop
    · rw [drop, drop, hp]
    · have hsub : s.pointer - UInt8.ofNat (k + 1) = s.drop.pointer - UInt8.ofNat k := by
        rw [drop, UInt8.ofNat_add]
        grind
      have hk1 := hs (k + 1) (by simpa using hk)
      rw [hsub] at hk1
      exact hk1

theorem Delivers.take {s : CallStack} {frames : Frames} (h : s.Delivers frames) (n : Nat) :
    s.Delivers (frames.take n) := by
  induction frames generalizing s n with
  | nil => simpa using h
  | cons address frames ih =>
    cases n with
    | zero => trivial
    | succ n => exact ⟨h.1, ih h.2 n⟩

theorem Delivers.tail {s : CallStack} {frames : Frames} (h : s.Delivers frames) :
    s.drop.Delivers frames.tail := by
  cases frames with
  | nil => trivial
  | cons address frames => exact h.2

/-- The slot above the pointer is none of the next 31 below. -/
theorem slot_succ_ne (p : UInt8) {k : Nat} (hk : k < stackSize - 1) :
    slot (p + 1) ≠ slot (p - UInt8.ofNat k) := by
  intro h
  have h' := congrArg Fin.val h
  simp only [slot, stackSize, UInt8.toNat_add, UInt8.toNat_sub, UInt8.toNat_ofNat'] at h' hk
  have h1 : (1 : UInt8).toNat = 1 := rfl
  have := p.toNat_lt
  omega

/-- A stack onto which an address is pushed delivers it before all others. -/
theorem Delivers.push {s : CallStack} {frames : Frames} (h : s.Delivers frames) (address : UInt16) :
    (s.push address).Delivers (frames.push address) := by
  refine ⟨top_push s address, (h.take (stackSize - 1)).congr (pointer_drop_push s address) ?_⟩
  intro k hk
  have hk' : k < stackSize - 1 := Nat.lt_of_lt_of_le hk (List.length_take_le _ _)
  show (s.push address).read _ = _
  rw [read_push, if_neg (slot_succ_ne s.pointer hk')]

end CallStack

/-! ## Traces -/

namespace Frames

theorem ofTrace_append (past : List Executed) (e : Executed) :
    ofTrace (past ++ [e]) = (ofTrace past).record e := by
  rw [ofTrace, List.foldl_append]
  rfl

/-- As long as the calls inside of a frame are nested less deeply than there is room, the frame
stays the oldest one. -/
theorem foldl_record_of_nested (address : UInt16) {trace : List Executed}
    (h : Nested (stackSize - 1) trace) :
    ∃ inner : Frames, trace.foldl record [address] = inner ++ [address] ∧
      inner.length + returns trace = calls trace := by
  induction trace using List.reverseRecOn with
  | nil => exact ⟨[], rfl, rfl⟩
  | append_singleton past e ih =>
    -- What holds of every beginning of the longer trace holds of those of the shorter one.
    have hpast : Nested (stackSize - 1) past := by
      intro start hs
      exact h start (hs.trans (List.prefix_append _ _))
    obtain ⟨inner, hfold, hlen⟩ := ih hpast
    obtain ⟨hret, hcall⟩ := h _ (List.prefix_refl _)
    rw [calls_append, returns_append] at hret hcall ⊢
    rw [List.foldl_append, hfold, List.foldl_cons, List.foldl_nil, record]
    by_cases hc : e.IsCall
    · have hr : ¬e.IsReturn := hc.not_isReturn
      simp only [calls_singleton, returns_singleton, hc, hr, if_true, if_false, stackSize]
        at hret hcall ⊢
      refine ⟨(e.pc + Word.width) :: inner, ?_, by simp; omega⟩
      exact List.take_of_length_le (by simp [stackSize]; omega)
    · by_cases hr : e.IsReturn
      · simp only [calls_singleton, returns_singleton, hc, hr, if_true, if_false] at hret hcall ⊢
        have hne : inner ≠ [] := by
          rintro rfl
          simp at hlen
          omega
        refine ⟨inner.tail, List.tail_append_of_ne_nil hne, ?_⟩
        rw [List.length_tail]
        omega
      · simp only [calls_singleton, returns_singleton, hc, hr, if_false]
        exact ⟨inner, rfl, hlen⟩

end Frames

namespace Machine

/-- Every executed instruction keeps in step what the ring delivers and the open frames. -/
theorem delivers_of_cycle {m after : Machine} {e : Executed} {frames : Frames}
    (h : m.stack.Delivers frames) (hc : m.cycle = (.ok e, after)) :
    after.stack.Delivers (frames.record e) := by
  obtain ⟨rfl, operation, executed, hop, hex, rfl⟩ := cycle_ok hc
  show executed.stack.Delivers _
  rw [(effect_of_execute hex).stack]
  simp only [Frames.record, Executed.IsCall, Executed.IsReturn, hop]
  cases operation with
  | call => exact h.push _
  | ret => exact h.tail
  | _ => exact h

/-- Every executed instruction keeps in step the stack pointer and the number of open calls. -/
theorem pointer_of_cycle {m after : Machine} {e : Executed} (hc : m.cycle = (.ok e, after)) :
    (after.stack.pointer.toNat : Int) =
      (m.stack.pointer.toNat + calls [e] - returns [e]) % 256 := by
  obtain ⟨rfl, operation, executed, hop, hex, rfl⟩ := cycle_ok hc
  show (executed.stack.pointer.toNat : Int) = _
  have hlt := m.stack.pointer.toNat_lt
  have h1 : (1 : UInt8).toNat = 1 := rfl
  rw [(effect_of_execute hex).stack]
  simp only [calls, returns, Executed.IsCall, Executed.IsReturn, hop, List.countP_singleton]
  cases operation with
  | call =>
    simp [stackAfter, CallStack.push, UInt8.toNat_add]
  | ret =>
    simp [stackAfter, CallStack.drop, UInt8.toNat_sub]
    omega
  | _ =>
    simp [stackAfter]
    omega

/-- A return goes to the address at the pointer. -/
theorem pc_of_return {m after : Machine} {e : Executed} (hc : m.cycle = (.ok e, after))
    (hr : e.IsReturn) : after.pc = m.stack.top := by
  obtain ⟨rfl, operation, executed, hop, hex, rfl⟩ := cycle_ok hc
  obtain rfl := Option.some.inj (hop.symm.trans hr)
  exact Except.ok.inj hex ▸ rfl

/-- After every run the ring delivers the open frames. -/
theorem delivers_run (m : Machine) (run : List Stimulus) :
    (m.after run).stack.Delivers (Frames.ofTrace (m.trace run)) := by
  have h0 : m.stack.Delivers (Frames.ofTrace []) := trivial
  refine trace_induction (P := fun m past => m.stack.Delivers (Frames.ofTrace past))
    ?_ (fun _ _ h => h) (fun _ _ _ h => h) h0 run
  intro m past e after h hc
  rw [Frames.ofTrace_append]
  exact delivers_of_cycle h hc

/-- After every run the pointer has moved by the calls less the returns. -/
theorem pointer_run (m : Machine) (run : List Stimulus) :
    ((m.after run).stack.pointer.toNat : Int) =
      (m.stack.pointer.toNat + calls (m.trace run) - returns (m.trace run)) % 256 := by
  have hlt := m.stack.pointer.toNat_lt
  have h0 : (m.stack.pointer.toNat : Int) =
      (m.stack.pointer.toNat + calls [] - returns []) % 256 := by
    simp [calls, returns]
    omega
  refine trace_induction (P := fun n past => (n.stack.pointer.toNat : Int) =
    (m.stack.pointer.toNat + calls past - returns past) % 256)
    ?_ (fun _ _ h => h) (fun _ _ _ h => h) h0 run
  intro n past e after h hc
  have hstep := pointer_of_cycle hc
  rw [calls_append, returns_append]
  push_cast
  omega

/-- After calls and returns that are properly nested inside of a call, what the ring delivers next
is the address behind the call. -/
theorem top_of_nested {m m' : Machine} {e : Executed} (hc : m.cycle = (.ok e, m')) (he : e.IsCall)
    {run : List Stimulus} (hn : Nested (stackSize - 1) (m'.trace run))
    (hb : calls (m'.trace run) = returns (m'.trace run)) :
    (m'.after run).stack.top = e.pc + Word.width := by
  have hd := m.delivers_run (.cycle :: run)
  obtain ⟨inner, hfold, hlen⟩ := Frames.foldl_record_of_nested (e.pc + Word.width) hn
  have hframes : Frames.ofTrace (m.trace (.cycle :: run)) = [e.pc + Word.width] := by
    have hrec : Frames.record [] e = [e.pc + Word.width] := by
      rw [Frames.record, if_pos he]
      rfl
    have hinner : inner = [] := List.length_eq_zero_iff.mp (by omega)
    rw [trace_cons_of_ok hc, Frames.ofTrace, List.foldl_cons, hrec, hfold, hinner]
    rfl
  have hafter : m.after (.cycle :: run) = m'.after run := by
    rw [after_cons, react, hc]
  rw [hframes, hafter] at hd
  exact hd.1

end Machine

/-! ## Main statement -/

/-- The call stack refines a stack of the 32 newest frames, whatever the ring and the pointer hold
at first: a return with an open frame goes to the newest one, and the pointer counts calls less
returns modulo 256. Hence a call, followed by calls and returns that are properly nested and never
more than 32 deep, followed by a return, comes back to the instruction behind the call. -/
theorem call_stack_keeps_newest_frames (m : Machine) (run : List Stimulus) :
    (∀ (e : Executed) (m' : Machine), (m.after run).cycle = (.ok e, m') → e.IsReturn →
      ∀ (address : UInt16) (frames : Frames), Frames.ofTrace (m.trace run) = address :: frames →
        m'.pc = address) ∧
    ((m.after run).stack.pointer.toNat : Int) =
      (m.stack.pointer.toNat + calls (m.trace run) - returns (m.trace run)) % 256 ∧
    ∀ (e : Executed) (m₁ : Machine), m.cycle = (.ok e, m₁) → e.IsCall →
      Nested (stackSize - 1) (m₁.trace run) → calls (m₁.trace run) = returns (m₁.trace run) →
      ∀ (r : Executed) (m₂ : Machine), (m₁.after run).cycle = (.ok r, m₂) → r.IsReturn →
        m₂.pc = m.pc + 2 := by
  refine ⟨?_, m.pointer_run run, ?_⟩
  · intro e m' hc hr address frames hf
    have hd := m.delivers_run run
    rw [hf] at hd
    rw [Machine.pc_of_return hc hr]
    exact hd.1
  · intro e m₁ hc he hn hb r m₂ hc' hr
    rw [Machine.pc_of_return hc' hr, Machine.top_of_nested hc he hn hb, (Machine.cycle_ok hc).1]
    rfl

/-- Two nested calls at the beginning of memory, with the stack pointer about to wrap around. -/
def Machine.nestedCalls : Machine :=
  { Machine.ofProgram [] (.cyclic []) with
    memory := Memory.zero.writeMany 0 [0x20, 0x04, 0x00, 0x00, 0x20, 0x08, 0x00, 0xEE, 0x00, 0xEE]
    pc := 0
    stack := ⟨.replicate stackSize 0xFFFF, 255⟩ }

/-- Both calls come back, the inner one to its frame and the outer one behind the inner one. -/
theorem call_stack_keeps_newest_frames_of_nestedCalls :
    (Machine.nestedCalls.after [.cycle, .tick, .cycle, .cycle]).pc = 6 ∧
    (Machine.nestedCalls.after [.cycle, .tick, .cycle, .cycle, .cycle]).pc =
      Machine.nestedCalls.pc + 2 := by
  have hr : Machine.nestedCalls.random.Reliable := fun _ => rfl
  have hinner := (call_stack_keeps_newest_frames Machine.nestedCalls [.cycle, .tick, .cycle]).1 _ _
    (Machine.cycle_eq_of_isSome (Machine.reliable_run hr _).1 (by decide +kernel)) (by decide +kernel)
    6 [2] (by decide +kernel)
  have houter := (call_stack_keeps_newest_frames Machine.nestedCalls [.tick, .cycle, .cycle]).2.2 _ _
    (Machine.cycle_eq_of_isSome hr (by decide +kernel)) (by decide +kernel) (by decide +kernel)
    (by decide +kernel) _ _
    (Machine.cycle_eq_of_isSome (Machine.reliable_run (Machine.reliable_cycle hr).1 _).1
      (by decide +kernel)) (by decide +kernel)
  exact ⟨hinner, houter⟩

end Chip8
