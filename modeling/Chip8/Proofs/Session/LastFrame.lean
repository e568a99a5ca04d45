import Chip8.Proofs.Footprint
import Chip8.Proofs.Rendering
import Chip8.Proofs.Session.History
import Chip8.Rom
import Mathlib.Data.List.Induction

/-!
# The last frame of a session

The front end looks at the display, and then whether the scheduler has stopped. In between it passes
commands on, and the scheduler may draw and stop before the front end has come round. It then ends the
session without looking again: the terminal is left with the picture of the last look, and the flag of
the display says whether that is still the one on the display.
-/

namespace Chip8

/-- The picture on a terminal, a dark one if nothing was painted. -/
def Terminal.shown (t : Terminal) : Bitmap := (t.picture.map Frame.bitmap).getD .blank

namespace Machine

theorem display_of_load {stream : List ReadOutcome} {random : RandomSource} {m : Machine}
    (h : load stream random = .ok m) : m.display = .blank := by
  obtain ⟨program, rfl⟩ := exists_program_of_load h
  rfl

end Machine

namespace Session

variable {s s' s'' : Session} {deeds deeds' : List Deed}

/-! ## Turns that do not look -/

/-- What it means that the scheduler did `deeds` between `s` and `s'`, and the front end took no
frame. -/
structure Unobserved (s : Session) (deeds : List Deed) (s' : Session) : Prop where
  machine : s'.loop.scheduler.machine =
    s.loop.scheduler.machine.after (serialise s.loop.scheduler.state deeds)
  state : s'.loop.scheduler.state = deeds.foldl Deed.nextState s.loop.scheduler.state
  picture : s'.terminal.picture = s.terminal.picture

namespace Unobserved

theorem trans (h : Unobserved s deeds s') (h' : Unobserved s' deeds' s'') :
    Unobserved s (deeds ++ deeds') s'' where
  machine := by
    rw [h'.machine, h.machine, h.state, serialise_append, Machine.after_append]
  state := by
    rw [h'.state, h.state, List.foldl_append]
  picture := h'.picture.trans h.picture

/-- A turn that leaves scheduler and terminal as they are. -/
theorem of_eq (hscheduler : s'.loop.scheduler = s.loop.scheduler)
    (hterminal : s'.terminal = s.terminal) : Unobserved s [] s' where
  machine := by rw [hscheduler]; rfl
  state := by rw [hscheduler]; rfl
  picture := by rw [hterminal]

theorem deliver (hscheduler : s'.loop.scheduler = s.loop.scheduler)
    (hterminal : s'.terminal = s.terminal) (command : Command) :
    Unobserved s [] (s'.deliver command) := by
  rw [Session.deliver]
  split <;> exact of_eq hscheduler hterminal

theorem readLine (s : Session) : Unobserved s [] s.readLine := by
  have hturn := s.controllerTurn
  generalize s.readLine = s' at hturn ⊢
  cases hturn with
  | closed | ends | skips | sends => exact of_eq rfl rfl

theorem advanceFront (h : Healthy s) (hstage : s.stage ≠ .painting) :
    Unobserved s [] s.advanceFront := by
  have hturn := frontTurn h.fault h.stage
  generalize s.advanceFront = s' at hturn ⊢
  cases hturn with
  | paints hpainting => exact absurd hpainting hstage
  | passes | hangsUp => refine deliver ?_ ?_ _ <;> rfl
  | leaves | resumes | finishes | rests => exact of_eq rfl rfl

theorem advanceLoop (s : Session) (now : Nat) :
    Unobserved s (s.loop.deed? now).toList (s.advanceLoop now) := by
  rcases hrun : s.loop.result? with _ | result
  · have hserial := RunLoop.serial_along hrun [.step now]
    have hhistory : s.loop.history [.step now] = (s.loop.deed? now).toList := List.append_nil _
    rw [hhistory] at hserial
    exact ⟨hserial.machine, hserial.state, rfl⟩
  · obtain ⟨hdeed, hstep⟩ := RunLoop.step_of_ended (by rw [hrun]; rfl) now
    rw [Session.advanceLoop, hdeed, hstep]
    exact of_eq rfl rfl

/-- Only a turn of the front end that is about to paint is a look at the display. -/
theorem step (h : Healthy s) (turn : Turn) (hlook : ¬(turn = .front ∧ s.stage = .painting)) :
    Unobserved s (s.history [turn]) (s.step turn) := by
  cases turn with
  | controller => exact readLine s
  | front => exact advanceFront h fun hstage => hlook ⟨rfl, hstage⟩
  | scheduler now =>
    have hhistory : s.history [.scheduler now] = (s.loop.deed? now).toList := List.append_nil _
    rw [hhistory]
    exact advanceLoop s now

end Unobserved

/-! ## Turns that look -/

/-- The display of a session and what its terminal shows of it. -/
def rendering (s : Session) : Rendering := ⟨s.loop.scheduler.machine.display, s.terminal.shown⟩

theorem advanceFront_of_painting (h : Healthy s) (hstage : s.stage = .painting) :
    s.advanceFront = { s with
      loop.scheduler.machine := s.loop.scheduler.machine.snapshot.2
      terminal.picture := if s.loop.scheduler.machine.display.dirty then
        some s.loop.scheduler.machine.snapshot.1 else s.terminal.picture
      stage := .forwarding } := by
  have hturn := frontTurn h.fault h.stage
  generalize s.advanceFront = s' at hturn ⊢
  cases hturn with
  | paints => rfl
  | passes hother | hangsUp hother | leaves hother | resumes hother | finishes hother
  | rests hother =>
    rw [hstage] at hother
    exact absurd hother Stage.noConfusion

theorem rendering_advanceFront (h : Healthy s) (hstage : s.stage = .painting) :
    s.advanceFront.rendering = s.rendering.step .snapshot := by
  have hshown : ({ s.terminal with
      picture := if s.loop.scheduler.machine.display.dirty then
        some s.loop.scheduler.machine.snapshot.1 else s.terminal.picture } : Terminal).shown =
      s.terminal.shown.renderedAfter s.loop.scheduler.machine.snapshot.1 := by
    rw [Bitmap.renderedAfter, Terminal.shown]
    show _ = if s.loop.scheduler.machine.display.dirty then _ else _
    split <;> rfl
  rw [advanceFront_of_painting h hstage]
  exact congrArg (Rendering.mk _) hshown

theorem Unobserved.upToDate (h : Unobserved s deeds s') (hs : s.rendering.UpToDate) :
    s'.rendering.UpToDate := by
  intro hlowered
  have hdisplay : s'.loop.scheduler.machine.display.dirty = false := hlowered
  obtain ⟨hdirty, hsame⟩ := s.loop.scheduler.machine.display_of_run
    (serialise s.loop.scheduler.state deeds)
  rw [← h.machine] at hdirty hsame
  rw [hdisplay] at hdirty
  have hquiet := not_or.mp (mt hdirty.mpr Bool.false_ne_true)
  have hnone := hsame fun e he htouches => hquiet.2 ⟨e, he, htouches⟩
  show s'.terminal.shown = s'.loop.scheduler.machine.display.bitmap
  rw [hnone, Terminal.shown, h.picture]
  exact hs (Bool.eq_false_iff.mpr hquiet.1)

/-- As long as the flag of its display is down, a session shows what is on it. -/
theorem upToDate_step (h : Healthy s) (hs : s.rendering.UpToDate) (turn : Turn) :
    (s.step turn).rendering.UpToDate := by
  by_cases hlook : turn = .front ∧ s.stage = .painting
  · obtain ⟨rfl, hstage⟩ := hlook
    show s.advanceFront.rendering.UpToDate
    rw [rendering_advanceFront h hstage]
    exact Rendering.upToDate_step hs .snapshot
  · exact (Unobserved.step h turn hlook).upToDate hs

theorem upToDate_play (h : ∀ turns, Healthy (s.play turns)) (hs : s.rendering.UpToDate)
    (turns : List Turn) : (s.play turns).rendering.UpToDate := by
  induction turns using List.reverseRecOn with
  | nil => exact hs
  | append_singleton turns turn ih =>
    rw [play_append_singleton]
    exact upToDate_step (h turns) ih turn

theorem stage_step_of_ne {turn : Turn} (hturn : turn ≠ .front) :
    (s.step turn).stage = s.stage := by
  cases turn with
  | controller =>
    show s.readLine.stage = s.stage
    have hcontroller := s.controllerTurn
    generalize s.readLine = s' at hcontroller ⊢
    cases hcontroller with
    | closed | ends | skips | sends => rfl
  | front => exact absurd rfl hturn
  | scheduler now => rfl

/-- A session that is not about to look has looked before. -/
theorem exists_last_look (h : ∀ turns, Healthy (s.play turns)) (hstart : s.stage = .painting)
    (turns : List Turn) : (s.play turns).stage = .painting ∨
    ∃ before later, turns = before ++ .front :: later ∧ (s.play before).stage = .painting ∧
      Unobserved (s.play before).advanceFront ((s.play before).advanceFront.history later)
        (s.play turns) := by
  induction turns using List.reverseRecOn with
  | nil => exact Or.inl hstart
  | append_singleton turns turn ih =>
    rw [play_append_singleton]
    by_cases hlook : turn = .front ∧ (s.play turns).stage = .painting
    · obtain ⟨rfl, hstage⟩ := hlook
      exact Or.inr ⟨turns, [], rfl, hstage, .of_eq rfl rfl⟩
    · have hunobserved := Unobserved.step (h turns) turn hlook
      rcases ih with hstage | ⟨before, later, rfl, hstage, hlater⟩
      · refine Or.inl ((stage_step_of_ne ?_).trans hstage)
        exact fun hturn => hlook ⟨hturn, hstage⟩
      · refine Or.inr ⟨before, later ++ [turn], List.append_assoc _ _ _, hstage, ?_⟩
        have hbehind : (s.play before).advanceFront.play later = s.play (before ++ .front :: later) :=
          (play_append s before (.front :: later)).symm
        rw [history_append, hbehind]
        exact hlater.trans hunobserved

/-- What a look at the display shows, and what is on the display when nobody looks any more. -/
theorem display_of_last_look (h : Healthy s) (hs : s.rendering.UpToDate) (hstage : s.stage = .painting)
    (hlater : Unobserved s.advanceFront deeds s') :
    let m := s.loop.scheduler.machine.snapshot.2
    let run := serialise s.loop.scheduler.state deeds
    s'.terminal.shown = s.loop.scheduler.machine.display.bitmap ∧
      s'.loop.scheduler.machine = m.after run ∧
      (s'.loop.scheduler.machine.display.dirty = true ↔
        ∃ e ∈ m.trace run, e.word.TouchesDisplay) ∧
      (s'.loop.scheduler.machine.display.dirty = false →
        s'.terminal.shown = s'.loop.scheduler.machine.display.bitmap) := by
  intro m run
  have hlooked : s.advanceFront.rendering.UpToDate := upToDate_step h hs .front
  have hafter : s'.loop.scheduler.machine = m.after run := by
    rw [hlater.machine, advanceFront_of_painting h hstage]
  have hdirty : s'.loop.scheduler.machine.display.dirty = true ↔
      ∃ e ∈ m.trace run, e.word.TouchesDisplay := by
    have hlowered : m.display.dirty = false := rfl
    rw [hafter, (m.display_of_run run).1, hlowered]
    simp
  refine ⟨?_, hafter, hdirty, hlater.upToDate hlooked⟩
  have hshown : s.advanceFront.terminal.shown = (s.rendering.step .snapshot).shown :=
    congrArg Rendering.shown (rendering_advanceFront h hstage)
  rw [Terminal.shown, hlater.picture]
  exact hshown.trans (Rendering.upToDate_step hs .snapshot rfl)

end Session

/-! ## Main statement -/

/-- In every interleaving, a session that has finished on a terminal that does not fail leaves there
the picture of the last look that the front end took at the display. What the scheduler executed
behind that look is not shown any more: the flag of the display is raised if and only if an
instruction of it touches the display, and otherwise the picture is the one on the display. -/
theorem finished_session_shows_last_look {stream : List ReadOutcome} {random : RandomSource}
    {m : Machine} (hload : Machine.load stream random = .ok m) (profile : Profile) (log : Log)
    (input : List UInt8) (turns : List Session.Turn)
    (hfinished : ((Session.start (.ofMachine m profile log) input (.fresh none)).play turns).stage =
      .finished) :
    let s := Session.start (.ofMachine m profile log) input (.fresh none)
    let final := s.play turns
    ∃ before later, turns = before ++ .front :: later ∧ (s.play before).stage = .painting ∧
      let seen := (s.play before).loop.scheduler.machine
      let run := serialise (s.play before).loop.scheduler.state
        ((s.play before).advanceFront.history later)
      final.terminal.shown = seen.display.bitmap ∧
      final.loop.scheduler.machine = seen.snapshot.2.after run ∧
      (final.loop.scheduler.machine.display.dirty = true ↔
        ∃ e ∈ seen.snapshot.2.trace run, e.word.TouchesDisplay) ∧
      (final.loop.scheduler.machine.display.dirty = false →
        final.terminal.shown = final.loop.scheduler.machine.display.bitmap) := by
  intro s final
  have hhealthy (turns : List Session.Turn) : Session.Healthy (s.play turns) :=
    ((Session.Records.start m profile log input rfl).play turns).healthy
  have hstart : s.rendering.UpToDate := by
    intro _
    show Bitmap.blank = m.display.bitmap
    rw [Machine.display_of_load hload]
    rfl
  rcases Session.exists_last_look hhealthy rfl turns with hpainting | hlook
  · rw [hfinished] at hpainting
    exact absurd hpainting Stage.noConfusion
  · obtain ⟨before, later, hturns, hstage, hlater⟩ := hlook
    exact ⟨before, later, hturns, hstage,
      Session.display_of_last_look (hhealthy before) (Session.upToDate_play hhealthy hstart before)
        hstage hlater⟩

/-- A machine that draws the digit zero. -/
def Machine.drawing : Machine := .ofProgram [0xD0, 0x05] (.cyclic [])

/-- The drawing machine, paused, under a text of a step and a request to stop. -/
def Session.drawing : Session :=
  .start (.ofMachine .drawing (.ofRates 1000 60 true) (.fresh false)) [0x73, 0x0A, 0x71, 0x0A]
    (.fresh none)

/-- The front end looks at the display and passes on both commands of the text. Before it checks, the
scheduler handles them both. -/
def Session.Turn.hasty : List Session.Turn :=
  [.controller, .controller, .front, .front, .front, .front, .scheduler 0, .scheduler 0, .front]

/-- The hasty session has looked at the dark display only, and has left the digit unpainted. -/
theorem finished_session_shows_last_look_hasty :
    Machine.load [.chunk [0xD0, 0x05]] (.cyclic []) = .ok .drawing ∧
    (Session.drawing.play Session.Turn.hasty).stage = .finished ∧
    ∃ before later, Session.Turn.hasty = before ++ .front :: later ∧
      (Session.drawing.play before).stage = .painting ∧
      (Session.drawing.play Session.Turn.hasty).terminal.shown =
        (Session.drawing.play before).loop.scheduler.machine.display.bitmap := by
  have hload : Machine.load [.chunk [0xD0, 0x05]] (.cyclic []) = .ok .drawing := rfl
  have hfinished : (Session.drawing.play Session.Turn.hasty).stage = .finished := by
    decide +kernel
  obtain ⟨before, later, hturns, hstage, hshown, -⟩ :=
    finished_session_shows_last_look hload (.ofRates 1000 60 true) (.fresh false)
      [0x73, 0x0A, 0x71, 0x0A] Session.Turn.hasty hfinished
  exact ⟨hload, hfinished, before, later, hturns, hstage, hshown⟩

/-- The final picture can be missed. The terminal of the hasty session does not fail, but when the
session has finished it does not show what is on the display. -/
theorem finished_session_can_miss_picture :
    Machine.load [.chunk [0xD0, 0x05]] (.cyclic []) = .ok .drawing ∧
    (Session.drawing.play Session.Turn.hasty).terminal.fault = none ∧
    (Session.drawing.play Session.Turn.hasty).stage = .finished ∧
    (Session.drawing.play Session.Turn.hasty).terminal.shown ≠
      (Session.drawing.play Session.Turn.hasty).loop.scheduler.machine.display.bitmap :=
  ⟨rfl, by decide +kernel, by decide +kernel, by decide +kernel⟩

end Chip8
