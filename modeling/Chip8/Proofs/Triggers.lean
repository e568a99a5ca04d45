import Chip8.Proofs.RunLoop

/-!
# A serviced trigger is quiet

The run loop has two triggers, one for timer ticks and one for instructions. The period of each is
computed from a rate by a division that rounds down, so it is zero for rates of more than one a
nanosecond. Up to that rate a trigger that is serviced is quiet afterwards: at one reading of the clock
each trigger fires at most once, and timer ticks, which go first, keep no instruction waiting. Above it
a trigger that is due stays due however often it is serviced, and if it is the timer trigger, then the
instruction deadline is never serviced any more.
-/

namespace Chip8

/-! ## Tickers -/

namespace Ticker

/-- A ticker after it was serviced at several times. -/
def advances (t : Ticker) (times : List Nat) : Ticker := times.foldl advance t

@[simp] theorem period_advances (t : Ticker) (times : List Nat) :
    (t.advances times).period = t.period := by
  induction times generalizing t with
  | nil => rfl
  | cons now times ih => exact (ih (t.advance now)).trans (t.period_advance now)

/-- Only a ticker that has no period is due again after it was serviced. -/
theorem due_advance_iff {t : Ticker} {now : Nat} (hdue : t.Due now) :
    (t.advance now).Due now ↔ t.period = 0 := by
  rw [Due] at hdue
  rw [Due, next_advance]
  split <;> omega

end Ticker

/-! ## Triggers -/

/-- What makes the run loop act without a command. -/
inductive Trigger
  | timers
  | cycles
deriving DecidableEq, Repr

/-- What the loop does when a trigger fires. -/
def Trigger.deed : Trigger → Deed
  | timers => .tick
  | cycles => .cadence

/-- The rate of a trigger among the rates that are asked for. -/
def Trigger.rate (ips timerHz : UInt32) : Trigger → UInt32
  | timers => timerHz
  | cycles => ips

def Profile.period (p : Profile) : Trigger → Nat
  | .timers => p.timerPeriod
  | .cycles => p.cyclePeriod

def RunLoop.ticker (l : RunLoop) : Trigger → Ticker
  | .timers => l.timers
  | .cycles => l.cycles

theorem Profile.second_div_eq_zero_iff (rate : UInt32) :
    second / (positiveRate rate).toNat = 0 ↔ 1000000000 < rate.toNat := by
  have hsecond : second = 1000000000 := rfl
  have hpos := positiveRate_pos rate
  rw [Nat.div_eq_zero_iff_lt hpos, hsecond, positiveRate]
  split
  · next hzero => simp [hzero]
  · rfl

/-- The period of a trigger is zero exactly for rates of more than one a nanosecond. -/
theorem Profile.period_eq_zero_iff (ips timerHz : UInt32) (startPaused : Bool) (trigger : Trigger) :
    (Profile.ofRates ips timerHz startPaused).period trigger = 0 ↔
      1000000000 < (trigger.rate ips timerHz).toNat := by
  cases trigger with
  | timers => exact second_div_eq_zero_iff timerHz
  | cycles => exact second_div_eq_zero_iff ips

/-! ## The tickers of the run loop -/

/-- The clock readings of the steps, in order. -/
def readings (occasions : List Occasion) : List Nat :=
  occasions.filterMap fun
    | .step now => some now
    | .send _ | .hangUp => none

namespace RunLoop

theorem ticker_start (s : Scheduler) (channel : Channel Command) (now : Nat) (trigger : Trigger) :
    (start s channel now).ticker trigger = .start (s.profile.period trigger) now := by
  cases trigger <;> rfl

theorem ticker_send (l : RunLoop) (command : Command) (trigger : Trigger) :
    (l.send command).ticker trigger = l.ticker trigger := by
  cases trigger <;> rfl

theorem ticker_hangUp (l : RunLoop) (trigger : Trigger) :
    l.hangUp.ticker trigger = l.ticker trigger := by
  cases trigger <;> rfl

theorem ticker_serve (l : RunLoop) (command : Command) (trigger : Trigger) :
    (l.serve command).ticker trigger = l.ticker trigger := by
  rw [serve]
  rcases l.scheduler.handle command with ⟨fault | flow, after⟩
  · cases trigger <;> rfl
  · cases flow <;> cases trigger <;> rfl

theorem ticker_fireCycles (l : RunLoop) (now : Nat) :
    (l.fireCycles now).timers = l.timers ∧ (l.fireCycles now).cycles = l.cycles.advance now := by
  rw [fireCycles]
  rcases l.scheduler.stepWhen .running with ⟨fault | done, after⟩ <;> exact ⟨rfl, rfl⟩

/-- A step services the ticker of the trigger that fires, and no other one. -/
theorem ticker_step (l : RunLoop) (now : Nat) (trigger : Trigger) :
    (l.step now).ticker trigger =
      if l.deed? now = some trigger.deed then (l.ticker trigger).advance now
      else l.ticker trigger := by
  rcases hres : l.result? with _ | result
  · have hstep := step_spec hres now
    generalize l.deed? now = deed, l.step now = l₁ at hstep ⊢
    cases hstep with
    | serve hq =>
      rw [ticker_serve, if_neg (by cases trigger <;> simp [Trigger.deed])]
      cases trigger <;> rfl
    | disconnect | rest => cases trigger <;> rfl
    | tick => cases trigger <;> rfl
    | cadence =>
      obtain ⟨htimers, hcycles⟩ := l.ticker_fireCycles now
      cases trigger with
      | timers => exact htimers
      | cycles => exact hcycles
  · obtain ⟨hdeed, hstep⟩ := step_of_ended (by rw [hres]; rfl) now
    rw [hdeed, hstep, if_neg (by simp)]

theorem step_of_deed? {l : RunLoop} {now : Nat} {deed : Deed} (h : l.deed? now = some deed) :
    Step l now (some deed) (l.step now) := by
  rcases hres : l.result? with _ | result
  · rw [← h]
    exact step_spec hres now
  · obtain ⟨hdeed, -⟩ := step_of_ended (by rw [hres]; rfl) now
    rw [hdeed] at h
    exact absurd h (by simp)

/-- A trigger fires only when it is due. -/
theorem due_of_deed? {l : RunLoop} {now : Nat} {trigger : Trigger}
    (h : l.deed? now = some trigger.deed) : (l.ticker trigger).Due now := by
  have hstep := step_of_deed? h
  generalize l.step now = l₁ at hstep
  cases trigger with
  | timers =>
    cases hstep with
    | tick hq hopen hp ht => exact ht
  | cycles =>
    cases hstep with
    | cadence hq hopen hp ht hc => exact hc

/-- The tickers of a run are the ones it began with, serviced at some times. -/
theorem ticker_along (l : RunLoop) (occasions : List Occasion) (trigger : Trigger) :
    ∃ times, (l.along occasions).ticker trigger = (l.ticker trigger).advances times := by
  induction occasions generalizing l with
  | nil => exact ⟨[], rfl⟩
  | cons occasion occasions ih =>
    cases occasion with
    | send command =>
      obtain ⟨times, h⟩ := ih (l.send command)
      rw [ticker_send] at h
      exact ⟨times, h⟩
    | hangUp =>
      obtain ⟨times, h⟩ := ih l.hangUp
      rw [ticker_hangUp] at h
      exact ⟨times, h⟩
    | step now =>
      obtain ⟨times, h⟩ := ih (l.step now)
      rw [ticker_step] at h
      split at h
      · exact ⟨now :: times, h⟩
      · exact ⟨times, h⟩

theorem period_along_start (s : Scheduler) (channel : Channel Command) (t₀ : Nat)
    (occasions : List Occasion) (trigger : Trigger) :
    (((start s channel t₀).along occasions).ticker trigger).period = s.profile.period trigger := by
  obtain ⟨times, h⟩ := (start s channel t₀).ticker_along occasions trigger
  rw [h, Ticker.period_advances, ticker_start]
  rfl

/-! ## One reading of the clock -/

/-- The loop is about to look for work, and no command is under way. -/
structure Unattended (l : RunLoop) : Prop where
  phase : l.phase = .polling
  queue : l.channel.queue = []
  isOpen : l.channel.isOpen = true

section OneReading

variable {l : RunLoop} {now : Nat}

/-- At one reading of the clock a trigger that has a period fires at most once, and not at all if it was
not due. -/
theorem count_deed_le {trigger : Trigger} {occasions : List Occasion}
    (hnow : ∀ reading ∈ readings occasions, reading = now)
    (hperiod : (l.ticker trigger).period ≠ 0) :
    (l.history occasions).count trigger.deed ≤ if (l.ticker trigger).Due now then 1 else 0 := by
  induction occasions generalizing l with
  | nil => simp [history]
  | cons occasion occasions ih =>
    cases occasion with
    | send command =>
      rw [← l.ticker_send command] at hperiod ⊢
      exact ih hnow hperiod
    | hangUp =>
      rw [← l.ticker_hangUp] at hperiod ⊢
      exact ih hnow hperiod
    | step reading =>
      obtain ⟨rfl, hrest⟩ := List.forall_mem_cons.mp hnow
      have hticker := l.ticker_step reading trigger
      have hlater := @ih (l.step reading) hrest (by
        rw [hticker]
        split <;> simpa using hperiod)
      rw [history, List.count_append]
      by_cases hdeed : l.deed? reading = some trigger.deed
      · -- Only here the ticker moves, and what it moved to lies ahead of the rest.
        have hdue := due_of_deed? hdeed
        have hquiet : ¬((l.step reading).ticker trigger).Due reading := by
          rw [hticker, if_pos hdeed, Ticker.due_advance_iff hdue]
          exact hperiod
        rw [if_neg hquiet] at hlater
        rw [if_pos hdue, hdeed, Option.toList_some, List.count_singleton_self]
        omega
      · have hcount : (l.deed? reading).toList.count trigger.deed = 0 := by
          rw [List.count_eq_zero, Option.mem_toList]
          exact hdeed
        rw [hticker, if_neg hdeed] at hlater
        omega

theorem deed?_of_unattended (h : l.Unattended) (now : Nat) :
    l.deed? now = if l.timers.Due now then some .tick
      else if l.cycles.Due now then some .cadence else none := by
  have hreceive : l.channel.receive.1 = .empty := by
    rw [Channel.receive, h.queue, h.isOpen]
    rfl
  rw [deed?, h.phase, hreceive]

theorem step_of_tick (hdeed : l.deed? now = some .tick) : l.step now = l.fireTimers now := by
  have hstep := step_of_deed? hdeed
  generalize l.step now = l₁ at hstep ⊢
  cases hstep with
  | tick => rfl

theorem Unattended.fireTimers (h : l.Unattended) (now : Nat) : (l.fireTimers now).Unattended :=
  ⟨rfl, h.queue, h.isOpen⟩

/-- If timer ticks have a period, an instruction that is due is executed at that reading of the clock,
behind one tick at most. -/
theorem cadence_mem_history (hperiod : l.timers.period ≠ 0) (h : l.Unattended)
    (hc : l.cycles.Due now) : .cadence ∈ l.history [.step now, .step now] := by
  have hdeed := deed?_of_unattended h now
  by_cases ht : l.timers.Due now
  · rw [if_pos ht] at hdeed
    have hquiet : ¬(l.fireTimers now).timers.Due now := fun hdue =>
      hperiod ((Ticker.due_advance_iff ht).mp hdue)
    have hcadence : (l.fireTimers now).deed? now = some .cadence := by
      rw [deed?_of_unattended (h.fireTimers now), if_neg hquiet]
      exact if_pos hc
    rw [history, step_of_tick hdeed, history, hcadence]
    simp
  · rw [if_neg ht, if_pos hc] at hdeed
    rw [history, hdeed]
    simp

/-- If timer ticks have no period, the loop does nothing else at that reading of the clock. -/
theorem history_replicate_step (hperiod : l.timers.period = 0) (h : l.Unattended)
    (ht : l.timers.Due now) (count : Nat) :
    l.history (List.replicate count (.step now)) = List.replicate count .tick := by
  induction count generalizing l with
  | zero => rfl
  | succ count ih =>
    have hdeed : l.deed? now = some .tick := by rw [deed?_of_unattended h, if_pos ht]
    have hagain : (l.fireTimers now).timers.Due now := (Ticker.due_advance_iff ht).mpr hperiod
    have hlater := ih ((l.timers.period_advance now).trans hperiod) (h.fireTimers now) hagain
    rw [List.replicate_succ, history, hdeed, step_of_tick hdeed, hlater, List.replicate_succ]
    rfl

end OneReading

/-- If timer ticks have no period, they are due at every later reading of the clock, and no instruction
deadline is ever serviced. -/
theorem cadence_not_mem_history {l : RunLoop} {last : Nat} {occasions : List Occasion}
    (hperiod : l.timers.period = 0) (hdue : l.timers.Due last)
    (hclock : (last :: readings occasions).Pairwise (· ≤ ·)) :
    .cadence ∉ l.history occasions := by
  induction occasions generalizing l last with
  | nil => exact List.not_mem_nil
  | cons occasion occasions ih =>
    cases occasion with
    | send command => exact @ih (l.send command) _ hperiod hdue hclock
    | hangUp => exact @ih l.hangUp _ hperiod hdue hclock
    | step now =>
      obtain ⟨hlast, hlater⟩ := List.pairwise_cons.mp hclock
      have hnow : l.timers.Due now := Nat.le_trans hdue (hlast now (List.mem_cons_self ..))
      have hticker := l.ticker_step now .timers
      have hagain : (l.step now).timers.Due now ∧ (l.step now).timers.period = 0 := by
        by_cases hdeed : l.deed? now = some .tick
        · have hserviced : (l.step now).timers = l.timers.advance now := hticker.trans (if_pos hdeed)
          rw [hserviced, Ticker.due_advance_iff hnow, Ticker.period_advance]
          exact ⟨hperiod, hperiod⟩
        · have hkept : (l.step now).timers = l.timers := hticker.trans (if_neg hdeed)
          rw [hkept]
          exact ⟨hnow, hperiod⟩
      have hfirst : l.deed? now ≠ some .cadence := by
        intro hdeed
        have hstep := step_of_deed? hdeed
        generalize l.step now = l₁ at hstep
        cases hstep with
        | cadence hq hopen hp ht => exact ht hnow
      rw [history, List.mem_append, Option.mem_toList, not_or]
      exact ⟨hfirst, ih hagain.2 hagain.1 hlater⟩

end RunLoop

/-! ## Main statement -/

/-- A trigger that was due is quiet after it was serviced exactly if its rate is at most one a nanosecond,
whenever its ticker was started and however often it was serviced before. In every run of the loop a
trigger with such a rate fires at most once at one reading of the clock, whatever else happens there; and
if the timer trigger has such a rate, an instruction that is due is executed at that reading, behind one
tick at most. If timer ticks are faster, then a timer trigger that is due fires at every step of the loop
at that reading; and as long as the clock does not go backwards, no instruction deadline is ever
serviced. -/
theorem serviced_trigger_is_quiet_iff (ips timerHz : UInt32)
    (startPaused : Bool) :
    (∀ (trigger : Trigger) (t₀ : Nat) (times : List Nat) (now : Nat),
      let period := (Profile.ofRates ips timerHz startPaused).period trigger
      let t := (Ticker.start period t₀).advances times
      t.Due now → (¬(t.advance now).Due now ↔ (trigger.rate ips timerHz).toNat ≤ 1000000000)) ∧
    ∀ (s : Scheduler) (channel : Channel Command) (t₀ : Nat) (before : List Occasion),
      s.profile = .ofRates ips timerHz startPaused →
      let l := (RunLoop.start s channel t₀).along before
      (∀ trigger : Trigger, (trigger.rate ips timerHz).toNat ≤ 1000000000 →
        ∀ (now : Nat) (occasions : List Occasion), (∀ reading ∈ readings occasions, reading = now) →
        (l.history occasions).count trigger.deed ≤ 1) ∧
      (∀ now, l.Unattended →
        (timerHz.toNat ≤ 1000000000 → l.cycles.Due now →
          .cadence ∈ l.history [.step now, .step now]) ∧
        (1000000000 < timerHz.toNat → l.timers.Due now → ∀ count,
          l.history (List.replicate count (.step now)) = List.replicate count .tick)) ∧
      (1000000000 < timerHz.toNat → (t₀ :: readings before).Pairwise (· ≤ ·) →
        .cadence ∉ (RunLoop.start s channel t₀).history before) := by
  have hzero := Profile.period_eq_zero_iff ips timerHz startPaused
  refine ⟨?_, fun s channel t₀ before hs => ?_⟩
  · intro trigger t₀ times now period t hdue
    have hperiod : t.period = period := Ticker.period_advances _ _
    rw [Ticker.due_advance_iff hdue, hperiod, hzero, Nat.not_lt]
  · intro l
    have hperiod (trigger : Trigger) : (l.ticker trigger).period =
        (Profile.ofRates ips timerHz startPaused).period trigger := by
      rw [← hs]
      exact RunLoop.period_along_start s channel t₀ before trigger
    have hpos (trigger : Trigger) (hrate : (trigger.rate ips timerHz).toNat ≤ 1000000000) :
        (l.ticker trigger).period ≠ 0 := by
      rw [hperiod, Ne, hzero, Nat.not_lt]
      exact hrate
    refine ⟨?_, ?_, ?_⟩
    · intro trigger hrate now occasions hnow
      have hcount := RunLoop.count_deed_le hnow (hpos trigger hrate)
      split at hcount <;> omega
    · intro now hfree
      refine ⟨fun hrate hdue => ?_, fun hrate hdue count => ?_⟩
      · exact RunLoop.cadence_mem_history (hpos .timers hrate) hfree hdue
      · have htimers : l.timers.period = 0 := (hperiod .timers).trans ((hzero .timers).mpr hrate)
        exact RunLoop.history_replicate_step htimers hfree hdue count
    · intro hrate hclock
      have htimers : s.profile.timerPeriod = 0 := by
        rw [hs]
        exact (hzero .timers).mpr hrate
      have hdue : (RunLoop.start s channel t₀).timers.Due t₀ := by
        show t₀ + s.profile.timerPeriod ≤ t₀
        rw [htimers]
        exact Nat.le_refl t₀
      exact RunLoop.cadence_not_mem_history htimers hdue hclock

/-- A running scheduler that is asked for two timer ticks in every nanosecond. -/
def Scheduler.hurried : Scheduler :=
  .ofMachine (.ofProgram [] (.cyclic [])) (.ofRates 1000 2000000000 false) (.fresh false)

/-- At sixty ticks a second one tick and one instruction fire after a second; at two in a nanosecond
nothing but ticks does. -/
theorem serviced_trigger_is_quiet_at_sixty_a_second :
    (Ticker.start (Profile.ofRates 1000 60 true).timerPeriod 0).Due second ∧
    ¬((Ticker.start (Profile.ofRates 1000 60 true).timerPeriod 0).advance second).Due second ∧
    ((RunLoop.start .idling .fresh 0).history (List.replicate 3 (.step second))).count .tick ≤ 1 ∧
    .cadence ∈ (RunLoop.start .idling .fresh 0).history [.step second, .step second] ∧
    (RunLoop.start .hurried .fresh 0).history (List.replicate 3 (.step second)) =
      List.replicate 3 .tick ∧
    .cadence ∉ (RunLoop.start .hurried .fresh 0).history [.step 0, .step 5, .step second] := by
  have hfree (s : Scheduler) : (RunLoop.start s .fresh 0).Unattended := ⟨rfl, rfl, rfl⟩
  obtain ⟨hticker, hrun⟩ := serviced_trigger_is_quiet_iff 1000 60 true
  obtain ⟨hcount, hserved, -⟩ := hrun .idling .fresh 0 [] rfl
  obtain ⟨-, hburst, -⟩ := (serviced_trigger_is_quiet_iff 1000 2000000000 false).2
    .hurried .fresh 0 [] rfl
  obtain ⟨-, -, hnever⟩ := (serviced_trigger_is_quiet_iff 1000 2000000000 false).2
    .hurried .fresh 0 [.step 0, .step 5, .step second] rfl
  exact ⟨by decide, (hticker .timers 0 [] second (by decide)).mpr (by decide),
    hcount .timers (by decide) second _ (by decide),
    (hserved second (hfree _)).1 (by decide) (by decide),
    (hburst second (hfree _)).2 (by decide) (by decide) 3,
    hnever (by decide) (by decide)⟩

/-- A ticker that a profile produces can be due again right after it was serviced, and then keeps an
instruction that is due waiting at that reading of the clock. -/
theorem serviced_trigger_can_be_due_again :
    (Ticker.start (Profile.ofRates 1000 2000000000 false).timerPeriod 0).Due 0 ∧
    ((Ticker.start (Profile.ofRates 1000 2000000000 false).timerPeriod 0).advance 0).Due 0 ∧
    (RunLoop.start .hurried .fresh 0).cycles.Due 1000000 ∧
    (RunLoop.start .hurried .fresh 0).history [.step 1000000, .step 1000000, .step 1000000] =
      [.tick, .tick, .tick] := by
  decide +kernel

end Chip8
