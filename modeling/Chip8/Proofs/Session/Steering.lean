import Chip8.Proofs.Session.Fairness
import Chip8.Proofs.Session.Paused

/-!
# Text steers a session

The text that a controller reads says what a session does. However its threads are interleaved, the
scheduler handles the commands of the text one after another, then the request to stop that the end
of the text stands for, and stops with the first of them that makes it stop, unless a cycle fails
before. If the machine is paused all the time, the text even settles how the session ends and what
becomes of the machine.
-/

namespace Chip8

namespace Session

variable {m : Machine} {initial : RunState} {commands : List Command} {past : List Deed}
  {s : Session} {outcome : Except SessionError Machine}

theorem outcome?_cases (h : Healthy s) (houtcome : s.outcome? = some outcome) :
    (s.loop.result? = some (.ok ()) ∧ outcome = .ok s.loop.scheduler.machine) ∨
      ∃ fault, s.loop.result? = some (.error fault) ∧
        outcome = .error (.stopped (.ofFault fault)) := by
  rw [outcome?] at houtcome
  split at houtcome
  · next hresult => exact Or.inl ⟨hresult, (Option.some.inj houtcome).symm⟩
  · next fault _ hresult => exact Or.inr ⟨fault, hresult, (Option.some.inj houtcome).symm⟩
  · next cause _ hstage _ => exact absurd hstage (h.stage cause)
  · exact absurd houtcome (by simp)

namespace Records

/-- A session that ended well handled everything up to a request to stop, and no cycle failed. -/
theorem of_ok (h : Records m initial commands past s) {final : Machine}
    (houtcome : s.outcome? = some (.ok final)) :
    (∃ before, past.filterMap Deed.command? = before ++ [.close] ∧ .close ∉ before) ∧
      ∀ fault, .error fault ∉ m.results (serialise initial past) := by
  rcases outcome?_cases h.healthy houtcome with ⟨hresult, -⟩ | ⟨fault, -, heq⟩
  · obtain ⟨before, last, hpast, hquiet, hok, herror⟩ := h.ended _ hresult
    refine ⟨⟨before.filterMap Deed.command?, ?_, ?_⟩, fun fault hmem => ?_⟩
    · rw [hpast, hok.mp rfl, List.filterMap_append]
      rfl
    · rw [← handle_mem_iff]
      exact hquiet.close
    · exact absurd ((herror fault).mpr hmem) (by simp)
  · exact absurd heq (by simp)

/-- A session that ended badly met a word that is not an instruction, before any request to stop. -/
theorem of_error (hr : m.random.Reliable) (h : Records m initial commands past s)
    {error : SessionError} (houtcome : s.outcome? = some (.error error)) :
    ∃ word, error = .stopped (.unrecognised word) ∧
      .error (.unrecognised word) ∈ m.results (serialise initial past) ∧
      .close ∉ past.filterMap Deed.command? := by
  rcases outcome?_cases h.healthy houtcome with ⟨-, heq⟩ | ⟨fault, hresult, heq⟩
  · exact absurd heq (by simp)
  · obtain ⟨before, last, hpast, hquiet, hok, herror⟩ := h.ended _ hresult
    have hmem := (herror fault).mp rfl
    obtain rfl := Except.error.inj heq
    cases fault with
    | randomFailed => exact absurd hmem (Machine.reliable_run hr _).2
    | unrecognised word =>
      refine ⟨word, rfl, hmem, ?_⟩
      rw [← handle_mem_iff, hpast, List.mem_append, not_or, List.mem_singleton]
      refine ⟨hquiet.close, fun hlast => ?_⟩
      exact absurd (hok.mpr hlast.symm) (by simp)

/-- A paused session ends as its segment does, and leaves the machine that the segment leaves. -/
theorem of_paused (h : Records m .paused (commands ++ [.close]) past s) (hpause : .pause ∉ commands)
    (houtcome : s.outcome? = some outcome) :
    let c : Steered := ⟨m, .paused⟩
    let p := c.segment (commands ++ [.close])
    (∀ e ∈ m.trace (serialise .paused (p.map Deed.handle)), e.word &&& 0xF0FF ≠ 0xF007) →
    past.filterMap Deed.command? = p ∧
      ((∃ final, outcome = .ok final) ↔ c.EndsIn p (.ok ())) ∧
      (∀ word, outcome = .error (.stopped (.unrecognised word)) ↔
        c.EndsIn p (.error (.unrecognised word))) ∧
      (∀ final, outcome = .ok final → final = s.loop.scheduler.machine) ∧
      ((c.follow p).machine.withTimers s.loop.scheduler.machine.timers).PaintedAs
        s.loop.scheduler.machine s.terminal.picture := by
  intro c p hread
  have hend := h.segment_of_paused hpause hread
  have hmachine (hhandled : past.filterMap Deed.command? = p) :
      ((c.follow p).machine.withTimers s.loop.scheduler.machine.timers).PaintedAs
        s.loop.scheduler.machine s.terminal.picture := by
    obtain ⟨-, huntimed⟩ :=
      untimed_history (h.pause_not_mem hpause) (hhandled ▸ List.prefix_rfl) hread
    rw [hhandled] at huntimed
    have hafter := h.machine
    rw [Machine.untimed_eq_iff.mp huntimed] at hafter
    have htimers : s.loop.scheduler.machine.timers =
        (m.after (serialise .paused past)).timers := by
      rw [Machine.seen_eq_iff.mp hafter.seen]
      rfl
    rw [htimers]
    exact hafter
  rcases outcome?_cases h.healthy houtcome with ⟨hresult, rfl⟩ | ⟨fault, hresult, rfl⟩
  · obtain ⟨hhandled, hends⟩ := hend _ hresult
    refine ⟨hhandled, ⟨fun _ => hends, fun _ => ⟨_, rfl⟩⟩,
      fun word => ⟨fun heq => ?_, fun hends' => ?_⟩,
      fun final heq => (Except.ok.inj heq).symm, hmachine hhandled⟩
    · exact absurd heq (by simp)
    · exact absurd (hends.unique hends') (by simp)
  · obtain ⟨hhandled, hends⟩ := hend _ hresult
    refine ⟨hhandled, ⟨?_, fun hends' => ?_⟩, fun word => ⟨fun heq => ?_, fun hends' => ?_⟩,
      fun final heq => ?_, hmachine hhandled⟩
    · rintro ⟨final, heq⟩
      exact absurd heq (by simp)
    · exact absurd (hends.unique hends') (by simp)
    · cases fault with
      | randomFailed => exact absurd heq (by simp [RunnerError.ofFault])
      | unrecognised word' =>
        obtain rfl : word' = word := by simpa [RunnerError.ofFault] using heq
        exact hends
    · rw [Except.error.inj (hends.unique hends')]
      rfl
    · exact absurd heq (by simp)

end Records

end Session

/-! ## Main statement -/

/-- A text steers a session without losing, repeating or reordering commands.

Let `commands` be what the lines of the text ask for, up to the first line that is not text, and a
request to stop behind that. In every interleaving of controller, front end and scheduler the handled
commands are the first ones of these. When the session has ended well they end with the first request
to stop, and no cycle has failed; when it has ended with an error then because a cycle met a word that
is not an instruction, before any request to stop. Every schedule in which each thread takes a turn
again and again ends the session for good.

If the machine starts paused and the text never changes that, let `p` be the segment of the commands,
up to the first request to stop or the first step that fails. As long as `p` executes no `Fx07`, every
session handles `p` and ends as `p` does; its machine is the one that `p` leads to, apart from the
timers and from the flag of the display, and where the front end has lowered the flag the terminal
shows the display. -/
theorem text_steers_session (m : Machine) (hr : m.random.Reliable) (profile : Profile) (log : Log)
    (input : List UInt8) (terminal : Terminal) (hsink : terminal.fault = none) :
    let s := Session.start (.ofMachine m profile log) input terminal
    let commands := Controller.commands (Text.lines input) ++ [.close]
    (∀ turns : List Session.Turn,
      let handled := (s.history turns).filterMap Deed.command?
      let results := m.results (serialise s.loop.scheduler.state (s.history turns))
      handled <+: commands ∧
      (∀ final, (s.play turns).outcome? = some (.ok final) →
        (∃ before, handled = before ++ [.close] ∧ .close ∉ before) ∧
        ∀ fault, .error fault ∉ results) ∧
      ∀ error, (s.play turns).outcome? = some (.error error) →
        ∃ word, error = .stopped (.unrecognised word) ∧
          .error (.unrecognised word) ∈ results ∧ .close ∉ handled) ∧
    (∀ turns : Nat → Session.Turn, Session.Fair turns →
      ∃ n outcome, ∀ k, n ≤ k → (s.playFirst turns k).outcome? = some outcome) ∧
    (profile.startPaused = true → .pause ∉ commands →
      let c : Steered := ⟨m, .paused⟩
      let p := c.segment commands
      (∀ e ∈ m.trace (serialise .paused (p.map Deed.handle)), e.word &&& 0xF0FF ≠ 0xF007) →
      (c.EndsIn p (.ok ()) ∨ ∃ word, c.EndsIn p (.error (.unrecognised word))) ∧
      ∀ (turns : List Session.Turn) (outcome : Except SessionError Machine),
        (s.play turns).outcome? = some outcome →
        let final := (s.play turns).loop.scheduler.machine
        (s.history turns).filterMap Deed.command? = p ∧
        ((∃ machine, outcome = .ok machine) ↔ c.EndsIn p (.ok ())) ∧
        (∀ word, outcome = .error (.stopped (.unrecognised word)) ↔
          c.EndsIn p (.error (.unrecognised word))) ∧
        (∀ machine, outcome = .ok machine → machine = final) ∧
        ((c.follow p).machine.withTimers final.timers).PaintedAs final
          (s.play turns).terminal.picture) := by
  intro s commands
  have h := Session.Records.start m profile log input hsink
  refine ⟨fun turns => ?_, fun turns hfair => ?_, fun hpaused hpause => ?_⟩
  · have hturns := h.play turns
    exact ⟨hturns.handled, fun final => hturns.of_ok, fun error => hturns.of_error hr⟩
  · exact Session.Reached.ends hfair ⟨_, h⟩
  · intro c p hread
    rw [if_pos hpaused] at h
    refine ⟨?_, fun turns outcome houtcome => ?_⟩
    · obtain ⟨result, hends⟩ := c.ending_segment_close (Controller.commands (Text.lines input))
      rcases (Steered.endsIn_iff hr).mp hends with ⟨-, -, rfl⟩ | ⟨-, word, -, -, -, rfl⟩
      · exact Or.inl hends
      · exact Or.inr ⟨word, hends⟩
    refine (h.play turns).of_paused (fun hmem => ?_) houtcome hread
    exact hpause (List.mem_append_left _ hmem)

/-- The threads take turns in a circle. -/
def Session.Turn.circle (k : Nat) : Session.Turn :=
  if k % 3 = 0 then .controller
  else if k % 3 = 1 then .front
  else .scheduler (k * Runner.millisecond)

theorem Session.fair_circle : Session.Fair Session.Turn.circle where
  controller n := ⟨3 * n, by omega, by simp [Turn.circle]⟩
  front n := ⟨3 * n + 1, by omega, by simp [Turn.circle, Nat.add_mod]⟩
  scheduler n := ⟨3 * n + 2, _, by omega, by simp [Turn.circle, Nat.add_mod]; rfl⟩

/-- A machine that can clear the display and then meets a word that is not an instruction. -/
def Machine.wiping : Machine := .ofProgram [0x00, 0xE0, 0xFF, 0xFF] (.cyclic [])

/-- The wiping machine under a text of a step, a blank line, a line that is refused and a request to
stop. -/
def Session.wiping : Session :=
  .start (.ofMachine .wiping (.ofRates 1000 60 true) (.fresh false))
    [0x73, 0x0A, 0x0A, 0x78, 0x0A, 0x71, 0x0A] (.fresh none)

/-- In a circle of turns the session ends well, having handled the step and the request to stop. -/
theorem text_steers_session_wiping :
    (∃ n outcome, ∀ k, n ≤ k →
      (Session.wiping.playFirst Session.Turn.circle k).outcome? = some outcome) ∧
    (Session.wiping.history ((List.range 40).map Session.Turn.circle)).filterMap Deed.command? =
      [.step, .close] ∧
    ∃ final, (Session.wiping.playFirst Session.Turn.circle 40).outcome? = some (.ok final) ∧
      ((Steered.follow ⟨.wiping, .paused⟩ [.step, .close]).machine.withTimers final.timers).PaintedAs
        final (Session.wiping.playFirst Session.Turn.circle 40).terminal.picture := by
  have hr : Machine.wiping.random.Reliable := fun _ => rfl
  obtain ⟨-, hfair, hpaused⟩ := text_steers_session .wiping hr (.ofRates 1000 60 true) (.fresh false)
    [0x73, 0x0A, 0x0A, 0x78, 0x0A, 0x71, 0x0A] (.fresh none) rfl
  have hcommands : Controller.commands (Text.lines [0x73, 0x0A, 0x0A, 0x78, 0x0A, 0x71, 0x0A]) =
      [.step, .close] := by
    decide +kernel
  have hsegment : Steered.segment ⟨.wiping, .paused⟩ ([.step, .close] ++ [.close]) =
      [.step, .close] := by
    decide +kernel
  have houtcome : (Session.wiping.playFirst Session.Turn.circle 40).outcome?.isSome := by
    decide +kernel
  obtain ⟨outcome, houtcome⟩ := Option.isSome_iff_exists.mp houtcome
  simp only [hcommands, hsegment] at hpaused
  obtain ⟨-, hplay⟩ := hpaused rfl (by decide) (by decide +kernel)
  obtain ⟨hhandled, hok, -, hmachine, hpainted⟩ := hplay _ outcome houtcome
  obtain ⟨final, rfl⟩ := hok.mpr ⟨[.step], .close, rfl, rfl⟩
  rw [← hmachine final rfl] at hpainted
  refine ⟨hfair _ Session.fair_circle, hhandled, final, houtcome, ?_⟩
  rw [Session.playFirst, Session.wiping]
  exact hpainted

/-- A machine that sets the delay timer and reads it back, and that meets a word which is not an
instruction if the timer was counted down in between. -/
def Machine.timing : Machine :=
  .ofProgram [0x61, 0x01, 0xF1, 0x15, 0xF2, 0x07, 0x32, 0x01, 0xFF, 0xFF, 0x00, 0xE0] (.cyclic [])

/-- The timing machine under a text of two steps, blank lines, three steps and a request to stop. -/
def Session.timing : Session :=
  .start (.ofMachine .timing (.ofRates 1000 1000 true) (.fresh false))
    [0x73, 0x0A, 0x73, 0x0A, 0x0A, 0x0A, 0x0A, 0x0A, 0x73, 0x0A, 0x73, 0x0A, 0x73, 0x0A, 0x71, 0x0A]
    (.fresh none)

/-- The text alone does not settle what becomes of a paused session. A front end that takes a frame
lowers the flag of the display, so the machine may differ in that flag too from the one that the
commands lead to. And where an instruction reads a timer the clock decides how the session ends: here
the commands lead to the request to stop, but the session stops with an error before. -/
theorem text_alone_does_not_settle_session :
    (let c : Steered := ⟨.wiping, .paused⟩
      let p := c.segment (Controller.commands Session.wiping.unread ++ [.close])
      (∀ e ∈ c.machine.trace (serialise .paused (p.map Deed.handle)), e.word &&& 0xF0FF ≠ 0xF007) ∧
      ∃ final, (Session.wiping.playFirst Session.Turn.circle 40).outcome? = some (.ok final) ∧
        (c.follow p).machine.withTimers final.timers ≠ final) ∧
    (let c : Steered := ⟨.timing, .paused⟩
      let commands := Controller.commands Session.timing.unread ++ [.close]
      .pause ∉ commands ∧ c.EndsIn (c.segment commands) (.ok ()) ∧
      (Session.timing.playFirst Session.Turn.circle 60).outcome? =
        some (.error (.stopped (.unrecognised 0xFFFF)))) := by
  refine ⟨⟨by decide +kernel, ?_⟩, by decide +kernel, ?_, ?_⟩
  · have hflags : ((Session.wiping.playFirst Session.Turn.circle 40).outcome?.bind
        Except.toOption).map (·.display.dirty) = some false := by
      decide +kernel
    obtain ⟨final, hfinal, hlowered⟩ := Option.map_eq_some_iff.mp hflags
    obtain ⟨outcome, houtcome, hok⟩ := Option.bind_eq_some_iff.mp hfinal
    cases outcome with
    | error error => exact absurd hok (by simp [Except.toOption])
    | ok machine =>
      obtain rfl := Option.some.inj hok
      refine ⟨machine, houtcome, fun heq => ?_⟩
      have hraised : (Steered.follow ⟨.wiping, .paused⟩ (Steered.segment ⟨.wiping, .paused⟩
          (Controller.commands Session.wiping.unread ++ [.close]))).machine.display.dirty = true := by
        decide +kernel
      rw [← heq, Machine.display_withTimers, hraised] at hlowered
      exact absurd hlowered (by decide)
  · have hsegment : Steered.segment ⟨.timing, .paused⟩
        (Controller.commands Session.timing.unread ++ [.close]) =
          List.replicate 5 .step ++ [.close] := by
      decide +kernel
    exact ⟨_, _, hsegment, Steered.ending?_eq_ok_iff.mpr rfl⟩
  · have herror : (Session.timing.playFirst Session.Turn.circle 60).outcome?.bind
        (Except.casesOn (motive := fun _ => Option SessionError) · some fun _ => none) =
          some (.stopped (.unrecognised 0xFFFF)) := by
      decide +kernel
    obtain ⟨outcome, houtcome, herror⟩ := Option.bind_eq_some_iff.mp herror
    cases outcome with
    | ok machine => exact absurd herror (by simp)
    | error error => rw [houtcome, Option.some.inj herror]

end Chip8
