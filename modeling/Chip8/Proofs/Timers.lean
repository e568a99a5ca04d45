import Chip8.Proofs.InstructionSet
import Chip8.Proofs.Stimulus
import Chip8.Rom

/-!
# Timers do not interfere

A machine can learn about its timers through one instruction only, `Fx07`, which reads the delay
timer, and it can change them through two, `Fx15` and `Fx18`. So it does not matter when the timers
are counted down between other instructions: everything but the timers comes out the same, and the
timers do too if they were counted down equally often. Nothing at all can be learned about the sound
timer.

All of this follows from one equation for an operation that finds other timers in the machine,
`Machine.execute_withTimers`.
-/

namespace Chip8

/-! ## Instructions that use the timers -/

/-- The words that read or set a timer: `Fx07`, `Fx15` and `Fx18`. -/
def Word.UsesTimers (w : Word) : Prop :=
  w &&& 0xF0FF = 0xF007 ∨ w &&& 0xF0FF = 0xF015 ∨ w &&& 0xF0FF = 0xF018

instance (w : Word) : Decidable w.UsesTimers := inferInstanceAs (Decidable (_ ∨ _ ∨ _))

/-- One of the two timers. -/
inductive Timer
  | delay
  | sound
deriving DecidableEq, Repr

namespace Timer

/-- What a timer stands at. -/
def value : Timer → Timers → UInt8
  | delay, timers => timers.delay
  | sound, timers => timers.sound

/-- The operation that sets a timer. -/
def setter : Timer → Operation
  | delay => .setDelay
  | sound => .setSound

/-- The word that sets a timer, its register left out. -/
def settingWord : Timer → Word
  | delay => 0xF015
  | sound => 0xF018

/-- The word sets the timer: `Fx15` the delay timer and `Fx18` the sound timer. -/
def IsSetBy (t : Timer) (w : Word) : Prop := w &&& 0xF0FF = t.settingWord

instance (t : Timer) (w : Word) : Decidable (t.IsSetBy w) :=
  inferInstanceAs (Decidable (_ = _))

theorem IsSetBy.usesTimers {t : Timer} {w : Word} (h : t.IsSetBy w) : w.UsesTimers := by
  cases t with
  | delay => exact Or.inr (Or.inl h)
  | sound => exact Or.inr (Or.inr h)

theorem isSetBy_iff {t : Timer} {w : Word} {operation : Operation}
    (h : w.operation? = some operation) : t.IsSetBy w ↔ operation = t.setter := by
  constructor
  · intro hw
    exact Word.operation_eq_of_masked h hw (by cases t <;> decide)
  · rintro rfl
    exact Word.masked_of_operation? (p := ⟨t.setter, t.settingWord, 0xF0FF⟩) h (by cases t <;> rfl)

end Timer

theorem Word.usesTimers_of_operation? {w : Word} {operation : Operation}
    (h : w.operation? = some operation)
    (hop : operation ∈ [.readDelay, .setDelay, .setSound]) : w.UsesTimers := by
  have hw : w &&& 0xF0FF ∈ ([0xF007, 0xF015, 0xF018] : List UInt16) :=
    masked_mem_of_operation? h hop (by decide)
  simpa [UsesTimers] using hw

namespace Machine

/-! ## Machines with other timers -/

/-- The machine with other timers. -/
def withTimers (m : Machine) (t : Timers) : Machine := { m with timers := t }

@[simp] theorem display_withTimers (m : Machine) (t : Timers) :
    (m.withTimers t).display = m.display := rfl

/-- What is left of a machine when its timers are not looked at. -/
def untimed (m : Machine) : Machine := m.withTimers .zero

/-- What is left of a machine when its sound timer is not looked at. -/
def soundless (m : Machine) : Machine := m.withTimers ⟨m.timers.delay, 0⟩

variable {m n : Machine} {t : Timers}

theorem untimed_eq_iff : m.untimed = n.untimed ↔ n = m.withTimers n.timers := by
  constructor
  · intro h
    calc n = n.untimed.withTimers n.timers := rfl
      _ = m.untimed.withTimers n.timers := by rw [h]
      _ = m.withTimers n.timers := rfl
  · intro h
    rw [h]
    rfl

theorem soundless_eq_iff :
    m.soundless = n.soundless ↔ n = m.withTimers n.timers ∧ n.timers.delay = m.timers.delay := by
  constructor
  · intro h
    have hdelay : n.timers.delay = m.timers.delay := by
      calc n.timers.delay = n.soundless.timers.delay := rfl
        _ = m.soundless.timers.delay := by rw [h]
    have huntimed : m.untimed = n.untimed := by
      calc m.untimed = m.soundless.untimed := rfl
        _ = n.soundless.untimed := by rw [h]
    exact ⟨untimed_eq_iff.mp huntimed, hdelay⟩
  · rintro ⟨h, hdelay⟩
    calc m.soundless = m.withTimers ⟨n.timers.delay, 0⟩ := by rw [hdelay]; rfl
      _ = (m.withTimers n.timers).soundless := rfl
      _ = n.soundless := by rw [← h]

/-! ## Operations and cycles -/

/-- The timers after an operation on a machine that has the timers `t`. -/
def timersAfter (m : Machine) (w : Word) (t : Timers) : Operation → Timers
  | .setDelay => { t with delay := m.reg w.x }
  | .setSound => { t with sound := m.reg w.x }
  | _ => t

theorem timersAfter_of_ne {operation : Operation} (hdelay : operation ≠ .setDelay)
    (hsound : operation ≠ .setSound) (w : Word) (t : Timers) : m.timersAfter w t operation = t := by
  cases operation with
  | setDelay => exact absurd rfl hdelay
  | setSound => exact absurd rfl hsound
  | _ => rfl

theorem value_timersAfter (w : Word) (operation : Operation) (timer : Timer) :
    timer.value (m.timersAfter w t operation) =
      if operation = timer.setter then m.reg w.x else timer.value t := by
  cases timer with
  | delay => cases operation <;> rfl
  | sound => cases operation <;> rfl

/-- What an operation makes of the delay timer does not depend on the sound timer. -/
theorem delay_timersAfter {t' : Timers} (h : t.delay = t'.delay) (w : Word) (operation : Operation) :
    (m.timersAfter w t operation).delay = (m.timersAfter w t' operation).delay := by
  cases operation with
  | setDelay => rfl
  | _ => exact h

/-- An operation that finds other timers does the same to everything else, and to the timers what it
does to them. Only the operation that reads the delay timer has to find it as it was. -/
theorem execute_withTimers {operation : Operation}
    (h : operation = .readDelay → t.delay = m.timers.delay) (w : Word) :
    (m.withTimers t).execute w operation =
      (m.execute w operation).map (·.withTimers (m.timersAfter w t operation)) := by
  cases operation with
  | random =>
    simp only [execute, withTimers]
    cases m.random.drawByte? <;> rfl
  | awaitKey =>
    simp only [execute, awaitKey, withTimers]
    split <;> rfl
  | readDelay =>
    simp only [execute, withTimers, h rfl]
    rfl
  | restore =>
    simp only [execute, withTimers]
    generalize m.registers.overwrite _ = registers
    rfl
  | _ => rfl

/-- The timers after a cycle of a machine that has the timers `t`. -/
def timersAfterCycle (m : Machine) (t : Timers) : Timers :=
  match m.cycle.1, m.fetch.operation? with
  | .ok _, some operation => m.timersAfter m.fetch t operation
  | _, _ => t

/-- A cycle that finds other timers goes the same way, fails alike, and leaves everything but the
timers alike. -/
theorem cycle_withTimers (h : m.fetch.operation? = some .readDelay → t.delay = m.timers.delay) :
    (m.withTimers t).cycle = (m.cycle.1, m.cycle.2.withTimers (m.timersAfterCycle t)) := by
  have hfetch : (m.withTimers t).fetch = m.fetch := rfl
  rcases hop : m.fetch.operation? with _ | operation
  · simp only [cycle, timersAfterCycle, hfetch, hop]
  · have hread : operation = .readDelay → t.delay = m.timers.delay := by
      rintro rfl
      exact h hop
    have hex := execute_withTimers hread m.fetch
    simp only [cycle, timersAfterCycle, hfetch, hop, hex]
    rcases m.execute m.fetch operation with fault | after
    · rfl
    · rfl

/-- The timers are changed by a cycle only as `timersAfterCycle` says. -/
theorem timers_cycle (m : Machine) : m.cycle.2.timers = m.timersAfterCycle m.timers := by
  have h := m.cycle_withTimers (t := m.timers) fun _ => rfl
  calc m.cycle.2.timers = (m.withTimers m.timers).cycle.2.timers := rfl
    _ = m.timersAfterCycle m.timers := by rw [h]; rfl

theorem timersAfterCycle_of_not_usesTimers (h : ¬m.fetch.UsesTimers) (t : Timers) :
    m.timersAfterCycle t = t := by
  rw [timersAfterCycle]
  split
  · next operation _ hop =>
    refine timersAfter_of_ne ?_ ?_ m.fetch t
    · rintro rfl
      exact h (Word.usesTimers_of_operation? hop (by simp))
    · rintro rfl
      exact h (Word.usesTimers_of_operation? hop (by simp))
  · rfl

/-- An executed instruction changes a timer only if it sets that timer. -/
theorem value_of_cycle {after : Machine} {e : Executed} (h : m.cycle = (.ok e, after))
    (timer : Timer) :
    timer.value after.timers =
      if timer.IsSetBy e.word then m.reg e.word.x else timer.value m.timers := by
  have htimers := m.timers_cycle
  rw [h] at htimers
  obtain ⟨rfl, operation, executed, hop, -, rfl⟩ := cycle_ok h
  rw [timersAfterCycle, h, hop] at htimers
  rw [htimers, value_timersAfter]
  simp only [Timer.isSetBy_iff hop]

theorem delay_timersAfterCycle {t' : Timers} (h : t.delay = t'.delay) :
    (m.timersAfterCycle t).delay = (m.timersAfterCycle t').delay := by
  rw [timersAfterCycle, timersAfterCycle]
  split
  · exact delay_timersAfter h _ _
  · exact h

theorem cycle_of_untimed_eq (h : m.untimed = n.untimed) (hread : m.fetch &&& 0xF0FF ≠ 0xF007) :
    m.cycle.1 = n.cycle.1 ∧ m.cycle.2.untimed = n.cycle.2.untimed := by
  have hdelay : m.fetch.operation? = some .readDelay → n.timers.delay = m.timers.delay := by
    intro hop
    exact absurd (Word.masked_of_operation? hop rfl) hread
  rw [untimed_eq_iff.mp h, cycle_withTimers hdelay]
  exact ⟨rfl, rfl⟩

/-- Also the cycle that reads the delay timer fetches the same word; it is the registers that then
differ. -/
theorem result_of_untimed_eq (h : m.untimed = n.untimed) : m.cycle.1 = n.cycle.1 := by
  have hn := untimed_eq_iff.mp h
  have hfetch : n.fetch = m.fetch := by rw [hn]; rfl
  by_cases hop : m.fetch.operation? = some .readDelay
  · have hpc : n.pc = m.pc := by rw [hn]; rfl
    simp only [cycle, hfetch, hop, execute, hpc]
  · rw [hn, cycle_withTimers fun hread => absurd hread hop]

theorem cycle_of_soundless_eq (h : m.soundless = n.soundless) :
    m.cycle.1 = n.cycle.1 ∧ m.cycle.2.soundless = n.cycle.2.soundless := by
  obtain ⟨hn, hdelay⟩ := soundless_eq_iff.mp h
  have hcycle := cycle_withTimers (m := m) (t := n.timers) fun _ => hdelay
  rw [← hn] at hcycle
  have htimers : (m.timersAfterCycle n.timers).delay = m.cycle.2.timers.delay := by
    rw [timers_cycle]
    exact delay_timersAfterCycle hdelay
  refine ⟨by rw [hcycle], soundless_eq_iff.mpr ⟨?_, ?_⟩⟩
  · rw [hcycle]
    rfl
  · rw [hcycle]
    exact htimers

/-- Counting the timers down before an instruction that does not use them is the same as doing it
afterwards. -/
theorem tick_cycle_comm (h : ¬m.fetch.UsesTimers) : m.tick.cycle = (m.cycle.1, m.cycle.2.tick) := by
  have hread : m.fetch.operation? = some .readDelay → m.timers.tick.delay = m.timers.delay := by
    intro hop
    exact absurd (Word.usesTimers_of_operation? hop (by simp)) h
  have htimers : m.cycle.2.timers = m.timers := by
    rw [timers_cycle, timersAfterCycle_of_not_usesTimers h]
  calc m.tick.cycle = (m.withTimers m.timers.tick).cycle := rfl
    _ = (m.cycle.1, m.cycle.2.withTimers m.timers.tick) := by
      rw [cycle_withTimers hread, timersAfterCycle_of_not_usesTimers h]
    _ = (m.cycle.1, m.cycle.2.withTimers m.cycle.2.timers.tick) := by rw [htimers]

end Machine

/-! ## Runs -/

/-- What is left of a run when ticks are not counted. -/
def withoutTicks (run : List Stimulus) : List Stimulus := run.filter (· ≠ .tick)

/-- Two runs that are the same but for ticks, which may be anywhere in both. -/
inductive SameButTicks : List Stimulus → List Stimulus → Prop
  | nil : SameButTicks [] []
  | left {run run' : List Stimulus} (h : SameButTicks run run') : SameButTicks (.tick :: run) run'
  | right {run run' : List Stimulus} (h : SameButTicks run run') : SameButTicks run (.tick :: run')
  | both {run run' : List Stimulus} (s : Stimulus) (h : SameButTicks run run') :
      SameButTicks (s :: run) (s :: run')

/-- Filtering ticks out is a way to compare runs step by step. -/
theorem sameButTicks_of_withoutTicks {run run' : List Stimulus}
    (h : withoutTicks run = withoutTicks run') : SameButTicks run run' := by
  induction run generalizing run' with
  | nil =>
    induction run' with
    | nil => exact .nil
    | cons s run' ih =>
      cases s with
      | tick => exact .right (ih h)
      | cycle => exact absurd h (by simp [withoutTicks])
      | keys mask => exact absurd h (by simp [withoutTicks])
  | cons s run ih =>
    by_cases hs : s = .tick
    · rw [hs]
      refine .left (ih ?_)
      rwa [hs] at h
    · have hfilter : withoutTicks (s :: run) = s :: withoutTicks run := by
        simp [withoutTicks, hs]
      rw [hfilter] at h
      -- The ticks before the same stimulus in the other run are skipped one by one.
      induction run' with
      | nil => exact absurd h (by simp [withoutTicks])
      | cons s' run' ih' =>
        by_cases hs' : s' = .tick
        · rw [hs']
          refine .right (ih' ?_)
          rwa [hs'] at h
        · have hfilter' : withoutTicks (s' :: run') = s' :: withoutTicks run' := by
            simp [withoutTicks, hs']
          rw [hfilter'] at h
          obtain ⟨rfl, hrest⟩ := List.cons.inj h
          exact .both s (ih hrest)

namespace Machine

variable {m n : Machine}

/-- A run shows the same, and leaves the same but for the timers, whatever the timers are and
wherever they are counted down, as long as it does not read the delay timer. -/
theorem untimed_run (h : m.untimed = n.untimed) {run run' : List Stimulus}
    (hrun : SameButTicks run run') (hread : ∀ e ∈ m.trace run, e.word &&& 0xF0FF ≠ 0xF007) :
    m.results run = n.results run' ∧ (m.after run).untimed = (n.after run').untimed := by
  induction hrun generalizing m n with
  | nil => exact ⟨rfl, h⟩
  | left _ ih => exact @ih m.tick n h hread
  | right _ ih => exact @ih m n.tick h hread
  | @both run run' s hrun ih =>
    cases s with
    | tick => exact @ih m.tick n.tick h hread
    | keys mask =>
      have hkeys : (m.setKeys mask).untimed = (n.setKeys mask).untimed :=
        congrArg (·.setKeys mask) h
      exact ih hkeys hread
    | cycle =>
      have hresult := result_of_untimed_eq h
      rcases hc : m.cycle with ⟨fault | e, after⟩
      · obtain ⟨htrace, hreact⟩ := trace_cons_of_error hc run
        rw [htrace] at hread
        rw [hc] at hresult
        have hc' : n.cycle = (.error fault, n.cycle.2) := Prod.ext hresult.symm rfl
        obtain ⟨-, hreact'⟩ := trace_cons_of_error hc' run'
        obtain ⟨hres, hafter⟩ := ih h hread
        simp only [results, after_cons, hreact, hreact', hc, ← hresult]
        exact ⟨by rw [hres], hafter⟩
      · rw [trace_cons_of_ok hc, List.forall_mem_cons] at hread
        obtain ⟨hfirst, hrest⟩ := hread
        rw [(cycle_ok hc).1] at hfirst
        obtain ⟨-, hnext⟩ := cycle_of_untimed_eq h hfirst
        have hreact := react_cycle hc
        have hnext' : after.untimed = (n.react .cycle).untimed := by rw [← hreact]; exact hnext
        obtain ⟨hres, hafter⟩ := ih hnext' hrest
        simp only [results, after_cons, hreact, hres, hresult]
        exact ⟨trivial, hafter⟩

theorem soundless_run (h : m.soundless = n.soundless) (run : List Stimulus) :
    m.results run = n.results run ∧ (m.after run).soundless = (n.after run).soundless := by
  induction run generalizing m n with
  | nil => exact ⟨rfl, h⟩
  | cons s run ih =>
    cases s with
    | cycle =>
      obtain ⟨hresult, hafter⟩ := cycle_of_soundless_eq h
      obtain ⟨hres, hend⟩ := ih hafter
      exact ⟨List.cons_eq_cons.mpr ⟨hresult, hres⟩, hend⟩
    | tick =>
      obtain ⟨hn, hdelay⟩ := soundless_eq_iff.mp h
      have hticked : m.tick.soundless = n.tick.soundless := by
        rw [hn, soundless_eq_iff]
        exact ⟨rfl, congrArg Timers.countDown hdelay⟩
      exact ih hticked
    | keys mask => exact ih (congrArg (·.setKeys mask) h)

end Machine

namespace Timer

/-- Timers are known by what each of them stands at. -/
theorem ext_value {timers timers' : Timers} (h : ∀ t : Timer, t.value timers = t.value timers') :
    timers = timers' := by
  calc timers = ⟨delay.value timers, sound.value timers⟩ := rfl
    _ = ⟨delay.value timers', sound.value timers'⟩ := by rw [h delay, h sound]
    _ = timers' := rfl

theorem toNat_value_tick (t : Timer) (timers : Timers) :
    (t.value timers.tick).toNat = (t.value timers).toNat - 1 := by
  cases t with
  | delay => exact Timers.toNat_countDown timers.delay
  | sound => exact Timers.toNat_countDown timers.sound

theorem toNat_value_ticks (t : Timer) (timers : Timers) (count : Nat) :
    (t.value (timers.ticks count)).toNat = (t.value timers).toNat - count := by
  rw [Timers.ticks_eq_repeat]
  cases t with
  | delay => exact Timers.toNat_delay_repeat_tick timers count
  | sound => exact Timers.toNat_sound_repeat_tick timers count

end Timer

namespace Machine

variable {m : Machine} {run run' : List Stimulus}

/-- A run that does not set a timer counts it down once for every tick. -/
theorem value_run {timer : Timer} (h : ∀ e ∈ m.trace run, ¬timer.IsSetBy e.word) :
    (timer.value (m.after run).timers).toNat = (timer.value m.timers).toNat - run.count .tick := by
  induction run generalizing m with
  | nil => rfl
  | cons s run ih =>
    cases s with
    | tick =>
      have hrest := @ih m.tick h
      have hfirst : (timer.value m.tick.timers).toNat = _ := timer.toNat_value_tick m.timers
      rw [List.count_cons_self, after_cons, react, hrest, hfirst]
      omega
    | keys mask => exact @ih (m.setKeys mask) h
    | cycle =>
      rcases hc : m.cycle with ⟨fault | e, after⟩
      · obtain ⟨htrace, hreact⟩ := trace_cons_of_error hc run
        rw [htrace] at h
        rw [after_cons, hreact]
        exact ih h
      · rw [trace_cons_of_ok hc, List.forall_mem_cons] at h
        obtain ⟨hfirst, hrest⟩ := h
        have hvalue := value_of_cycle hc timer
        rw [if_neg hfirst] at hvalue
        rw [after_cons, react_cycle hc, ← hvalue]
        exact ih hrest

/-- A run that does not use the timers counts them down once for every tick. -/
theorem timers_run (h : ∀ e ∈ m.trace run, ¬e.word.UsesTimers) :
    (m.after run).timers = m.timers.ticks (run.count .tick) := by
  apply Timer.ext_value
  intro timer
  have hset : ∀ e ∈ m.trace run, ¬timer.IsSetBy e.word :=
    fun e he hset => h e he hset.usesTimers
  apply UInt8.toNat_inj.mp
  rw [value_run hset, timer.toNat_value_ticks]

/-- Runs that do not use the timers end in the same machine if they are the same but for ticks and
have equally many of them. -/
theorem after_eq_of_sameButTicks (hrun : SameButTicks run run')
    (hcount : run.count .tick = run'.count .tick) (h : ∀ e ∈ m.trace run, ¬e.word.UsesTimers) :
    m.results run = m.results run' ∧ m.after run = m.after run' := by
  have hread : ∀ e ∈ m.trace run, e.word &&& 0xF0FF ≠ 0xF007 := by
    intro e he hword
    exact h e he (Or.inl hword)
  obtain ⟨hres, hafter⟩ := untimed_run rfl hrun hread
  refine ⟨hres, ?_⟩
  have h' : ∀ e ∈ m.trace run', ¬e.word.UsesTimers := by
    rw [trace, ← hres]
    exact h
  have htimers : (m.after run').timers = (m.after run).timers := by
    rw [timers_run h, timers_run h', hcount]
  have hend := untimed_eq_iff.mp hafter
  rw [htimers] at hend
  exact hend.symm

end Machine

/-! ## Main statement -/

/-- Timers do not interfere with anything except through `Fx07`, and ticks commute with instructions
that do not use the timers.

Two machines that differ only in their timers show the same in two runs that differ only in their
ticks, and go on differing only in their timers, as long as `Fx07` has not been executed. Two machines
that differ only in the sound timer go on differing only in that in every run. A tick before an
instruction that does not use the timers is a tick behind it, so that runs without such instructions
may be rearranged: only the number of ticks counts. -/
theorem timers_do_not_interfere :
    (∀ (m n : Machine) (run run' : List Stimulus), m.untimed = n.untimed →
      withoutTicks run = withoutTicks run' →
      (∀ e ∈ m.trace run, e.word &&& 0xF0FF ≠ 0xF007) →
      m.results run = n.results run' ∧ (m.after run).untimed = (n.after run').untimed ∧
        (m.after run).cycle.1 = (n.after run').cycle.1) ∧
    (∀ (m n : Machine) (run : List Stimulus), m.soundless = n.soundless →
      m.results run = n.results run ∧ (m.after run).soundless = (n.after run).soundless) ∧
    (∀ m : Machine, ¬m.fetch.UsesTimers → m.tick.cycle = (m.cycle.1, m.cycle.2.tick)) ∧
    ∀ (m : Machine) (run run' : List Stimulus), withoutTicks run = withoutTicks run' →
      run.count .tick = run'.count .tick → (∀ e ∈ m.trace run, ¬e.word.UsesTimers) →
      m.results run = m.results run' ∧ m.after run = m.after run' := by
  refine ⟨?_, fun _ _ run h => Machine.soundless_run h run, fun _ => Machine.tick_cycle_comm, ?_⟩
  · intro m n run run' h hrun hread
    obtain ⟨hres, hafter⟩ := Machine.untimed_run h (sameButTicks_of_withoutTicks hrun) hread
    exact ⟨hres, hafter, Machine.result_of_untimed_eq hafter⟩
  · intro m run run' hrun hcount h
    exact Machine.after_eq_of_sameButTicks (sameButTicks_of_withoutTicks hrun) hcount h

/-- A program that sets the delay timer, counts in a register and reads the delay timer. -/
def Machine.countingDown : Machine :=
  .ofProgram [0x60, 0x05, 0xF0, 0x15, 0x70, 0x01, 0xF1, 0x07] .broken

/-- Up to the read, other timers and ticks in other places do not show; the read itself tells the
delay timer but not the sound timer; and a tick may trade places with the first instruction. -/
theorem timers_do_not_interfere_until_read :
    (Machine.countingDown.after [.cycle, .tick, .cycle, .tick, .keys 3, .cycle]).untimed =
      ((Machine.countingDown.withTimers ⟨9, 7⟩).after
        [.tick, .cycle, .cycle, .keys 3, .cycle]).untimed ∧
    (Machine.countingDown.after [.cycle, .cycle, .tick, .cycle, .cycle]).soundless =
      ((Machine.countingDown.withTimers ⟨0, 7⟩).after
        [.cycle, .cycle, .tick, .cycle, .cycle]).soundless ∧
    Machine.countingDown.tick.cycle =
      (Machine.countingDown.cycle.1, Machine.countingDown.cycle.2.tick) ∧
    Machine.countingDown.after [.tick, .cycle, .tick] =
      Machine.countingDown.after [.cycle, .tick, .tick] := by
  obtain ⟨hread, hsound, hcomm, hcount⟩ := timers_do_not_interfere
  have hfirst := hread Machine.countingDown (Machine.countingDown.withTimers ⟨9, 7⟩)
    [.cycle, .tick, .cycle, .tick, .keys 3, .cycle] [.tick, .cycle, .cycle, .keys 3, .cycle] rfl
    (by decide) (by decide +kernel)
  have hsecond := hsound Machine.countingDown (Machine.countingDown.withTimers ⟨0, 7⟩)
    [.cycle, .cycle, .tick, .cycle, .cycle] rfl
  have hthird := hcount Machine.countingDown [.tick, .cycle, .tick] [.cycle, .tick, .tick]
    (by decide) (by decide) (by decide +kernel)
  exact ⟨hfirst.2.1, hsecond.2, hcomm _ (by decide +kernel), hthird.2⟩

end Chip8
