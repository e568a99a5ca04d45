import Chip8.Proofs.Timers

/-!
# What the timers stand at

A timer stands at the value that was last stored in it, less one for every tick since then, and at zero
when there were more ticks than that. Nothing else matters: not what the other timer is set to, not the
instructions in between, and not the cycles that fail.

A store is seen in the history of a run, where it is an executed `Fx15` or `Fx18` behind which no
other one for the same timer follows.
-/

namespace Chip8

namespace Timer

theorem eq_of_isSetBy {t t' : Timer} {w : Word} (h : t.IsSetBy w) (h' : t'.IsSetBy w) : t = t' := by
  have hword : t.settingWord = t'.settingWord := h.symm.trans h'
  cases t with
  | delay =>
    cases t' with
    | delay => rfl
    | sound => exact absurd hword (by decide)
  | sound =>
    cases t' with
    | delay => exact absurd hword (by decide)
    | sound => rfl

end Timer

namespace Machine

/-! ## The last store -/

/-- The value that a run stores in a timer last, and how many ticks of the run follow. A run that
stores nothing counts as if zero had been stored before it. -/
inductive LastStore (m : Machine) (timer : Timer) : List Stimulus → UInt8 → Nat → Prop
  | never {run : List Stimulus} (h : ∀ e ∈ m.trace run, ¬timer.IsSetBy e.word) :
      LastStore m timer run 0 (run.count .tick)
  | store (before : List Stimulus) {rest : List Stimulus} {e : Executed} {after : Machine}
      (hcycle : (m.after before).cycle = (.ok e, after)) (hset : timer.IsSetBy e.word)
      (hrest : ∀ e ∈ after.trace rest, ¬timer.IsSetBy e.word) :
      LastStore m timer (before ++ .cycle :: rest) ((m.after before).reg e.word.x)
        (rest.count .tick)

variable {m : Machine} {timer : Timer} {run : List Stimulus}

theorem exists_lastStore (m : Machine) (timer : Timer) (run : List Stimulus) :
    ∃ value ticks, m.LastStore timer run value ticks := by
  induction run generalizing m with
  | nil => exact ⟨0, 0, .never (by simp [trace, results])⟩
  | cons s run ih =>
    obtain ⟨value, ticks, hlast⟩ := ih (m.react s)
    cases hlast with
    | store before hcycle hset hrest => exact ⟨_, _, .store (s :: before) hcycle hset hrest⟩
    | never h =>
      -- Only the first stimulus is left, which may itself be the last store.
      cases s with
      | tick => exact ⟨0, _, .never h⟩
      | keys mask => exact ⟨0, _, .never h⟩
      | cycle =>
        rcases hc : m.cycle with ⟨fault | e, after⟩
        · obtain ⟨htrace, hreact⟩ := trace_cons_of_error hc run
          rw [hreact, ← htrace] at h
          exact ⟨0, _, .never h⟩
        · rw [react_cycle hc] at h
          by_cases hset : timer.IsSetBy e.word
          · exact ⟨_, _, .store [] hc hset h⟩
          · have hnone : ∀ e ∈ m.trace (.cycle :: run), ¬timer.IsSetBy e.word := by
              rw [trace_cons_of_ok hc, List.forall_mem_cons]
              exact ⟨hset, h⟩
            exact ⟨0, _, .never hnone⟩

/-- A machine whose timers were at rest has counted each of them down from its last store. -/
theorem LastStore.value_after {value : UInt8} {ticks : Nat} (h : m.LastStore timer run value ticks)
    (hrest : m.timers = .zero) :
    (timer.value (m.after run).timers).toNat = value.toNat - ticks := by
  cases h with
  | never h =>
    have hzero : timer.value m.timers = 0 := by
      rw [hrest]
      cases timer <;> rfl
    rw [value_run h, hzero]
  | store before hcycle hset hrest =>
    have hvalue := value_of_cycle hcycle timer
    rw [if_pos hset] at hvalue
    rw [after_append, after_cons, react, hcycle, value_run hrest, hvalue]

theorem timers_of_load {stream : List ReadOutcome} {random : RandomSource}
    (h : load stream random = .ok m) : m.timers = .zero := by
  obtain ⟨program, rfl⟩ := exists_program_of_load h
  rfl

/-- The instruction `Fx07` puts the delay timer into its register. -/
theorem reg_of_readDelay {after : Machine} {e : Executed} (h : m.cycle = (.ok e, after))
    (hw : e.word &&& 0xF0FF = 0xF007) : after.reg e.word.x = m.timers.delay := by
  obtain ⟨rfl, operation, executed, hop, hex, rfl⟩ := cycle_ok h
  obtain rfl : operation = .readDelay := Word.operation_eq_of_masked hop hw (by decide)
  obtain rfl := Except.ok.inj hex
  exact Registers.get_put_self _ _ _

end Machine

/-! ## Main statement -/

/-- The closed form of the timers. After every run of a machine that was just loaded, each timer
stands at the value that was last stored in it less the ticks since then, cut off at zero, and an
`Fx07` executed at that point delivers this number. A tick takes one from a timer that is not zero,
a store to one timer leaves the other alone, and a cycle that fails leaves both alone. -/
theorem timers_count_down_from_last_store {stream : List ReadOutcome} {random : RandomSource}
    {m : Machine} (hload : Machine.load stream random = .ok m) (run : List Stimulus) :
    (∀ timer : Timer, (∃ value ticks, m.LastStore timer run value ticks) ∧
      ∀ value ticks, m.LastStore timer run value ticks →
        (timer.value (m.after run).timers).toNat = value.toNat - ticks) ∧
    (∀ e after, (m.after run).cycle = (.ok e, after) → e.word &&& 0xF0FF = 0xF007 →
      ∀ value ticks, m.LastStore .delay run value ticks →
        (after.reg e.word.x).toNat = value.toNat - ticks) ∧
    (∀ timer : Timer, (timer.value (m.after run).tick.timers).toNat =
      (timer.value (m.after run).timers).toNat - 1) ∧
    (∀ e after, (m.after run).cycle = (.ok e, after) →
      ∀ timer other : Timer, timer.IsSetBy e.word → other ≠ timer →
        other.value after.timers = other.value (m.after run).timers) ∧
    ∀ fault after, (m.after run).cycle = (.error fault, after) →
      after.timers = (m.after run).timers := by
  have hrest := Machine.timers_of_load hload
  refine ⟨?_, ?_, ?_, ?_, ?_⟩
  · intro timer
    exact ⟨m.exists_lastStore timer run, fun value ticks hlast => hlast.value_after hrest⟩
  · intro e after hcycle hw value ticks hlast
    rw [Machine.reg_of_readDelay hcycle hw]
    exact hlast.value_after hrest
  · intro timer
    exact timer.toNat_value_tick _
  · intro e after hcycle timer other hset hne
    have hother : ¬other.IsSetBy e.word := fun hset' => hne (Timer.eq_of_isSetBy hset' hset)
    have hvalue := Machine.value_of_cycle hcycle other
    rwa [if_neg hother] at hvalue
  · intro fault after hcycle
    rw [Machine.cycle_error hcycle]

/-- A program that sets both timers to 3, reads the delay timer into register 2, and then meets a word
that is not an instruction. -/
def Machine.settingTimers : Machine :=
  .ofProgram [0x60, 0x03, 0xF0, 0x15, 0xF0, 0x18, 0xF2, 0x07, 0xFF, 0xFF] (.cyclic [])

/-- A run of that program up to the read, in which four ticks follow the first store and two the
second. -/
def Stimulus.pastZero : List Stimulus := [.cycle, .cycle, .tick, .tick, .cycle, .tick, .tick]

/-- The delay timer stops at zero while the sound timer is still counted down, the read delivers zero,
and the failing cycle behind it leaves both timers alone. -/
theorem timers_count_down_from_last_store_beyond_zero :
    (Machine.settingTimers.after Stimulus.pastZero).timers = ⟨0, 1⟩ ∧
    (Machine.settingTimers.after Stimulus.pastZero).cycle.2.reg 2 = 0 ∧
    (Machine.settingTimers.after (Stimulus.pastZero ++ [.cycle])).cycle.2.timers =
      (Machine.settingTimers.after (Stimulus.pastZero ++ [.cycle])).timers := by
  have hload : Machine.load [.chunk [0x60, 0x03, 0xF0, 0x15, 0xF0, 0x18, 0xF2, 0x07, 0xFF, 0xFF]]
      (.cyclic []) = .ok Machine.settingTimers := rfl
  have hr : Machine.settingTimers.random.Reliable := fun _ => rfl
  have hcycle {before : List Stimulus} {word : Word}
      (hfetch : (Machine.settingTimers.after before).fetch = word) (hop : word.operation?.isSome) :
      (Machine.settingTimers.after before).cycle =
        (.ok ⟨(Machine.settingTimers.after before).pc, word⟩,
          (Machine.settingTimers.after before).cycle.2) := by
    rw [← hfetch] at hop ⊢
    exact Machine.cycle_eq_of_isSome (Machine.reliable_run hr before).1 hop
  obtain ⟨hfirst, hsecond, hthird, hfourth, hdelayed, hsounded⟩ :
      (Machine.settingTimers.after [.cycle]).fetch = 0xF015 ∧
      (Machine.settingTimers.after [.cycle, .cycle, .tick, .tick]).fetch = 0xF018 ∧
      (Machine.settingTimers.after Stimulus.pastZero).fetch = 0xF207 ∧
      (Machine.settingTimers.after (Stimulus.pastZero ++ [.cycle])).fetch = 0xFFFF ∧
      (Machine.settingTimers.after [.cycle]).reg 0 = 3 ∧
      (Machine.settingTimers.after [.cycle, .cycle, .tick, .tick]).reg 0 = 3 := by
    decide +kernel
  have hdelay : Machine.settingTimers.LastStore .delay Stimulus.pastZero
      ((Machine.settingTimers.after [.cycle]).reg 0) 4 :=
    .store _ (hcycle hfirst (by decide)) (by decide) (by decide +kernel)
  have hsound : Machine.settingTimers.LastStore .sound Stimulus.pastZero
      ((Machine.settingTimers.after [.cycle, .cycle, .tick, .tick]).reg 0) 2 :=
    .store _ (hcycle hsecond (by decide)) (by decide) (by decide +kernel)
  rw [hdelayed] at hdelay
  rw [hsounded] at hsound
  obtain ⟨hvalue, hread, -, -, -⟩ := timers_count_down_from_last_store hload Stimulus.pastZero
  obtain ⟨-, -, -, -, hfail⟩ := timers_count_down_from_last_store hload (Stimulus.pastZero ++ [.cycle])
  refine ⟨Timer.ext_value fun timer => UInt8.toNat_inj.mp ?_, UInt8.toNat_inj.mp ?_, ?_⟩
  · cases timer with
    | delay => exact (hvalue .delay).2 _ _ hdelay
    | sound => exact (hvalue .sound).2 _ _ hsound
  · have htarget : Word.x 0xF207 = 2 := by decide
    rw [← htarget]
    exact hread _ _ (hcycle hthird (by decide)) (by decide) _ _ hdelay
  · generalize Machine.settingTimers.after (Stimulus.pastZero ++ [.cycle]) = m at hfourth hfail ⊢
    have hnone : m.fetch.operation? = none := by
      rw [hfourth]
      decide
    have hfault := congrArg Prod.fst (Machine.cycle_of_operation?_eq_none hnone)
    exact hfail _ m.cycle.2 (Prod.ext hfault rfl)

end Chip8
