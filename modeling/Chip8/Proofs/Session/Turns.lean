import Chip8.Proofs.Painting
import Chip8.Proofs.RunLoop
import Chip8.Session

/-!
# Turns of a session

What a turn of the controller or of the front end can do, as long as the terminal does not fail, and
what it means for the commands that are under way. Commands come from the lines that are still
unread, pass the two channels, and reach the scheduler; the end of the lines counts as a request to
stop. No turn loses a command, repeats one or changes their order while the scheduler is running.
-/

namespace Chip8

namespace Controller

/-- The command that a line asks for, if it is neither blank nor refused. -/
def command? (line : List Char) : Option Command :=
  match parse line with
  | .ok command => command
  | .error _ => none

/-- The commands of the lines up to the first one that is not text. -/
def commands (lines : List (Option (List Char))) : List Command :=
  (lines.takeWhile Option.isSome).filterMap fun line => line.bind command?

theorem commands_cons (line : List Char) (rest : List (Option (List Char))) :
    commands (some line :: rest) = (command? line).toList ++ commands rest := by
  rw [commands, List.takeWhile_cons_of_pos rfl, List.filterMap_cons, Option.bind_some]
  cases command? line <;> rfl

end Controller

namespace Session

variable {s s' : Session}

/-! ## What a turn can do -/

/-- What a turn of the controller can do. -/
inductive ControllerTurn (s : Session) : Session → Prop
  | closed (hopen : s.controls.isOpen = false) : ControllerTurn s s
  | ends (hopen : s.controls.isOpen = true)
      (hends : Controller.commands s.unread = [] ∨ s.isOver = true) : ControllerTurn s s.endInput
  | skips {line : List Char} {rest : List (Option (List Char))} {log : Log}
      (hopen : s.controls.isOpen = true) (hunread : s.unread = some line :: rest)
      (hline : Controller.command? line = none) :
      ControllerTurn s { s with unread := rest, log := log }
  | sends {line : List Char} {rest : List (Option (List Char))} {command : Command}
      (hopen : s.controls.isOpen = true) (hunread : s.unread = some line :: rest)
      (hline : Controller.command? line = some command) :
      ControllerTurn s { s with unread := rest, controls := s.controls.send command }

theorem controllerTurn (s : Session) : ControllerTurn s s.readLine := by
  rw [readLine]
  by_cases hopen : s.controls.isOpen = true
  · rw [if_pos hopen]
    rcases hunread : s.unread with _ | ⟨_ | line, rest⟩
    · exact .ends hopen (Or.inl (by rw [hunread]; rfl))
    · exact .ends hopen (Or.inl (by rw [hunread]; rfl))
    · rcases hparse : Controller.parse line with e | _ | command
      · simp only [hparse]
        exact .skips hopen hunread (by rw [Controller.command?, hparse])
      · simp only [hparse]
        exact .skips hopen hunread (by rw [Controller.command?, hparse])
      · have hover : { s with unread := rest }.isOver = s.isOver := rfl
        simp only [hparse, hover]
        by_cases hover : s.isOver = true
        · rw [if_pos hover]
          exact .ends hopen (Or.inr hover)
        · rw [if_neg hover]
          exact .sends hopen hunread (by rw [Controller.command?, hparse])
  · rw [if_neg hopen]
    exact .closed (by simpa using hopen)

/-- What a turn of the front end can do when the terminal does not fail. -/
inductive FrontTurn (s : Session) : Session → Prop
  | paints (hstage : s.stage = .painting) :
      FrontTurn s { s with
        loop.scheduler.machine := s.loop.scheduler.machine.snapshot.2
        terminal.picture := if s.loop.scheduler.machine.display.dirty then
          some s.loop.scheduler.machine.snapshot.1 else s.terminal.picture
        stage := .forwarding }
  | passes {command : Command} {rest : List Command} (hstage : s.stage = .forwarding)
      (hlistening : s.listening = true) (hq : s.controls.queue = command :: rest) :
      FrontTurn s ({ s with controls.queue := rest }.deliver command)
  | hangsUp (hstage : s.stage = .forwarding) (hlistening : s.listening = true)
      (hq : s.controls.queue = []) (hopen : s.controls.isOpen = false) :
      FrontTurn s (({ s with listening := false }.note .inputClosed).deliver .close)
  | leaves (hstage : s.stage = .forwarding)
      (hq : s.listening = true → s.controls.queue = [] ∧ s.controls.isOpen = true) :
      FrontTurn s { s with stage := .checking }
  | resumes (hstage : s.stage = .checking) (hrun : s.loop.result? = none) :
      FrontTurn s { s with stage := .painting }
  | finishes {log : Log} (hstage : s.stage = .checking) (hended : s.loop.result?.isSome) :
      FrontTurn s { s with stage := .finished, log := log }
  | rests (hstage : s.stage = .finished) : FrontTurn s s

theorem frontTurn (hfault : s.terminal.fault = none) (hstage : ∀ cause, s.stage ≠ .abandoned cause) :
    FrontTurn s s.advanceFront := by
  rcases hs : s.stage with _ | _ | _ | _ | cause
  · have hpaint : s.advanceFront = s.paint := by rw [advanceFront, hs]
    have hterminal (frame : Frame) :
        s.terminal.paint frame = (.ok (), { s.terminal with picture := some frame }) := by
      simp only [Terminal.paint, hfault]
    have h := FrontTurn.paints hs
    rw [hpaint]
    by_cases hdirty : s.loop.scheduler.machine.display.dirty = true
    · simp only [paint, Machine.snapshot, Display.snapshot, hdirty, if_true, hterminal] at h ⊢
      exact h
    · simp only [paint, Machine.snapshot, Display.snapshot, hdirty, Bool.false_eq_true, if_false]
        at h ⊢
      exact h
  · have hforward : s.advanceFront = s.forward := by rw [advanceFront, hs]
    rw [hforward, forward]
    by_cases hlistening : s.listening = true
    · rw [if_pos hlistening]
      rcases hq : s.controls.queue with _ | ⟨command, rest⟩
      · cases hopen : s.controls.isOpen with
        | true =>
          simp only [Channel.receive, hq, hopen, if_true]
          exact .leaves hs fun _ => ⟨hq, hopen⟩
        | false =>
          simp only [Channel.receive, hq, hopen, Bool.false_eq_true, if_false]
          exact .hangsUp hs hlistening hq hopen
      · simp only [Channel.receive, hq]
        exact .passes hs hlistening hq
    · rw [if_neg hlistening]
      exact .leaves hs fun h => absurd h hlistening
  · have hcheck : s.advanceFront = s.check := by rw [advanceFront, hs]
    rw [hcheck, check]
    rcases hrun : s.loop.result? with _ | fault | done
    · exact .resumes hs hrun
    · exact .finishes hs (by rw [hrun]; rfl)
    · exact .finishes hs (by rw [hrun]; rfl)
  · have hrests : s.advanceFront = s := by rw [advanceFront, hs]
    rw [hrests]
    exact .rests hs
  · exact absurd hs (hstage cause)

/-! ## Commands under way -/

/-- The commands that the front end has not passed on yet, up to the request to stop that the end of
the controller's input stands for. -/
def awaited (s : Session) : List Command :=
  if s.listening then
    s.controls.queue ++ (if s.controls.isOpen then Controller.commands s.unread else []) ++ [.close]
  else []

/-- The commands that the scheduler has not received yet. -/
def pending (s : Session) : List Command := s.loop.channel.queue ++ s.awaited

/-- What holds of every session whose terminal does not fail. -/
structure Healthy (s : Session) : Prop where
  fault : s.terminal.fault = none
  stage : ∀ cause, s.stage ≠ .abandoned cause
  finished : s.stage = .finished → s.loop.result?.isSome
  isOpen : s.loop.channel.isOpen = true

/-- What it means that a turn of the controller or the front end leaves the scheduler to itself. -/
structure Passes (s s' : Session) : Prop where
  healthy : Healthy s'
  result : s'.loop.result? = s.loop.result?
  state : s'.loop.scheduler.state = s.loop.scheduler.state
  machine : ∀ m : Machine, m.PaintedAs s.loop.scheduler.machine s.terminal.picture →
    m.PaintedAs s'.loop.scheduler.machine s'.terminal.picture
  pending : s.loop.result? = none → s'.pending = s.pending

theorem healthy_start (scheduler : Scheduler) (input : List UInt8) {terminal : Terminal}
    (hfault : terminal.fault = none) : Healthy (start scheduler input terminal) where
  fault := hfault
  stage _ := Stage.noConfusion
  finished := Stage.noConfusion
  isOpen := rfl

theorem pending_start (scheduler : Scheduler) (input : List UInt8) (terminal : Terminal) :
    (start scheduler input terminal).pending =
      Controller.commands (Text.lines input) ++ [.close] := rfl

/-- A session that is over has left its scheduler. -/
theorem Healthy.result_of_isOver (h : Healthy s) (hover : s.isOver = true) :
    s.loop.result?.isSome := by
  rw [isOver] at hover
  split at hover
  · next hs => exact h.finished hs
  · next cause hs => exact absurd hs (h.stage cause)
  · exact absurd hover (by decide)
  · exact absurd hover (by decide)
  · exact absurd hover (by decide)

theorem passes_readLine (h : Healthy s) : Passes s s.readLine := by
  have hturn := s.controllerTurn
  generalize s.readLine = s' at hturn ⊢
  cases hturn with
  | closed hopen => exact ⟨h, rfl, rfl, fun _ => id, fun _ => rfl⟩
  | ends hopen hends =>
    refine ⟨⟨h.fault, h.stage, h.finished, h.isOpen⟩, rfl, rfl, fun _ => id, fun hrun => ?_⟩
    rcases hends with hnone | hover
    · simp [Session.pending, awaited, endInput, Channel.hangUp, hopen, hnone]
    · have hended := h.result_of_isOver hover
      rw [hrun] at hended
      exact absurd hended (by decide)
  | skips hopen hunread hline =>
    refine ⟨⟨h.fault, h.stage, h.finished, h.isOpen⟩, rfl, rfl, fun _ => id, fun _ => ?_⟩
    simp [Session.pending, awaited, hopen, hunread, Controller.commands_cons, hline]
  | sends hopen hunread hline =>
    refine ⟨⟨h.fault, h.stage, h.finished, h.isOpen⟩, rfl, rfl, fun _ => id, fun _ => ?_⟩
    simp [Session.pending, awaited, Channel.send, hopen, hunread, Controller.commands_cons, hline]

/-- Delivering the first command that is awaited. -/
theorem passes_deliver {command : Command} (h : Healthy s') (hloop : s'.loop = s.loop)
    (hpicture : s'.terminal.picture = s.terminal.picture)
    (hawaited : s.awaited = command :: s'.awaited) : Passes s (s'.deliver command) := by
  have hresult : s'.loop.result? = s.loop.result? := congrArg RunLoop.result? hloop
  have hstate : s'.loop.scheduler.state = s.loop.scheduler.state :=
    congrArg (·.scheduler.state) hloop
  have hmachine (m : Machine) (hm : m.PaintedAs s.loop.scheduler.machine s.terminal.picture) :
      m.PaintedAs s'.loop.scheduler.machine s'.terminal.picture := by
    rw [hloop, hpicture]
    exact hm
  rw [deliver]
  by_cases hended : s'.loop.result?.isSome = true
  · rw [if_pos hended]
    refine ⟨⟨h.fault, h.stage, h.finished, h.isOpen⟩, hresult, hstate, hmachine, fun hrun => ?_⟩
    rw [hresult, hrun] at hended
    exact absurd hended (by decide)
  · rw [if_neg hended]
    refine ⟨⟨h.fault, h.stage, h.finished, h.isOpen⟩, hresult, hstate, hmachine, fun _ => ?_⟩
    calc (s'.loop.channel.queue ++ [command]) ++ s'.awaited
        = s.loop.channel.queue ++ ([command] ++ s'.awaited) := by
          rw [hloop, List.append_assoc]
      _ = s.pending := by
          rw [Session.pending, hawaited]
          rfl

theorem passes_advanceFront (h : Healthy s) : Passes s s.advanceFront := by
  have hturn := frontTurn h.fault h.stage
  generalize s.advanceFront = s' at hturn ⊢
  cases hturn with
  | paints hstage =>
    refine ⟨⟨h.fault, fun _ => Stage.noConfusion, Stage.noConfusion, h.isOpen⟩, rfl, rfl, ?_,
      fun _ => rfl⟩
    intro m hm
    exact hm.snapshot
  | passes hstage hlistening hq =>
    refine passes_deliver ⟨h.fault, h.stage, h.finished, h.isOpen⟩ rfl rfl ?_
    simp [awaited, hlistening, hq]
  | hangsUp hstage hlistening hq hopen =>
    refine passes_deliver ⟨h.fault, h.stage, h.finished, h.isOpen⟩ rfl rfl ?_
    simp [awaited, hlistening, hq, hopen, note]
  | leaves hstage hq =>
    exact ⟨⟨h.fault, fun _ => Stage.noConfusion, Stage.noConfusion, h.isOpen⟩, rfl, rfl,
      fun _ => id, fun _ => rfl⟩
  | resumes hstage hrun =>
    exact ⟨⟨h.fault, fun _ => Stage.noConfusion, Stage.noConfusion, h.isOpen⟩, rfl, rfl,
      fun _ => id, fun _ => rfl⟩
  | finishes hstage hended =>
    exact ⟨⟨h.fault, fun _ => Stage.noConfusion, fun _ => hended, h.isOpen⟩, rfl, rfl,
      fun _ => id, fun _ => rfl⟩
  | rests hstage => exact ⟨h, rfl, rfl, fun _ => id, fun _ => rfl⟩

end Session

end Chip8
