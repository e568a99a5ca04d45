import Chip8.Proofs.Session.Turns

/-!
# The history of a session

The deeds of the scheduler in a session are recorded turn by turn. The record says which commands were
handled, what became of the machine, and how the scheduler stopped; it is kept by every turn of
every thread, so nothing depends on how the turns are interleaved.
-/

namespace Chip8

/-- Nothing in the history makes a scheduler stop. -/
structure Quiet (m : Machine) (initial : RunState) (past : List Deed) : Prop where
  close : .handle .close ∉ past
  fault : ∀ fault, .error fault ∉ m.results (serialise initial past)

namespace Session

variable {m : Machine} {initial : RunState} {commands : List Command} {past : List Deed}
  {s s' : Session}

/-- What the scheduler does in the given turns. -/
def history (s : Session) : List Turn → List Deed
  | [] => []
  | .controller :: turns => s.readLine.history turns
  | .front :: turns => s.advanceFront.history turns
  | .scheduler now :: turns => (s.loop.deed? now).toList ++ (s.advanceLoop now).history turns

theorem play_append (s : Session) (turns more : List Turn) :
    s.play (turns ++ more) = (s.play turns).play more := List.foldl_append

theorem play_append_singleton (s : Session) (turns : List Turn) (turn : Turn) :
    s.play (turns ++ [turn]) = (s.play turns).step turn := s.play_append turns [turn]

theorem history_append (s : Session) (turns more : List Turn) :
    s.history (turns ++ more) = s.history turns ++ (s.play turns).history more := by
  induction turns generalizing s with
  | nil => rfl
  | cons turn turns ih =>
    cases turn with
    | controller => exact ih s.readLine
    | front => exact ih s.advanceFront
    | scheduler now =>
      rw [List.cons_append, history, history, ih, List.append_assoc]
      rfl

/-- What it means that a session, begun with the machine `m` and with `commands` under way, has come
to `s` by the deeds of the scheduler in `past`. -/
structure Records (m : Machine) (initial : RunState) (commands : List Command) (past : List Deed)
    (s : Session) : Prop where
  healthy : Healthy s
  handled : past.filterMap Deed.command? <+: commands
  pending : s.loop.result? = none → past.filterMap Deed.command? ++ s.pending = commands
  machine : (m.after (serialise initial past)).PaintedAs s.loop.scheduler.machine s.terminal.picture
  state : s.loop.scheduler.state = past.foldl Deed.nextState initial
  quiet : s.loop.result? = none → Quiet m initial past
  ended : ∀ result, s.loop.result? = some result →
    ∃ before last, past = before ++ [last] ∧ Quiet m initial before ∧
      (result = .ok () ↔ last = .handle .close) ∧
      ∀ fault, result = .error fault ↔ .error fault ∈ m.results (serialise initial past)

namespace Records

theorem start (m : Machine) (profile : Profile) (log : Log) (input : List UInt8)
    {terminal : Terminal} (hfault : terminal.fault = none) :
    Records m (if profile.startPaused then .paused else .running)
      (Controller.commands (Text.lines input) ++ [.close]) []
      (Session.start (.ofMachine m profile log) input terminal) where
  healthy := healthy_start _ input hfault
  handled := List.nil_prefix
  pending _ := pending_start _ input terminal
  machine := .refl m _
  state := rfl
  quiet _ := ⟨List.not_mem_nil, fun _ => List.not_mem_nil⟩
  ended _ hended := absurd hended (by simp [Session.start, RunLoop.start, RunLoop.result?])

/-- Turns that leave the scheduler to itself keep the record. -/
theorem passes (h : Records m initial commands past s) (hpasses : Passes s s') :
    Records m initial commands past s' where
  healthy := hpasses.healthy
  handled := h.handled
  pending hrun := by
    rw [hpasses.result] at hrun
    rw [hpasses.pending hrun]
    exact h.pending hrun
  machine := hpasses.machine _ h.machine
  state := hpasses.state.trans h.state
  quiet hrun := h.quiet (hpasses.result ▸ hrun)
  ended result hended := h.ended result (hpasses.result ▸ hended)

/-- A deed of the scheduler goes on record. -/
theorem does {deed : Deed} {l : RunLoop} (h : Records m initial commands past s)
    (hrun : s.loop.result? = none) (hdeed : deed ≠ .hangUp) (hdoes : s.loop.Does deed l) :
    Records m initial commands (past ++ [deed]) { s with loop := l } := by
  have hserialise : serialise initial (past ++ [deed]) =
      serialise initial past ++ deed.stimuli s.loop.scheduler.state := by
    rw [serialise_append, ← h.state, serialise, serialise, List.append_nil]
  have hhandled : (past ++ [deed]).filterMap Deed.command? =
      past.filterMap Deed.command? ++ deed.command?.toList := by
    rw [List.filterMap_append, List.filterMap_cons]
    cases deed.command? <;> rfl
  have hpending : (past ++ [deed]).filterMap Deed.command? ++ { s with loop := l }.pending =
      commands := by
    rw [hhandled, List.append_assoc, ← h.pending hrun, Session.pending, Session.pending,
      ← hdoes.queue, List.append_assoc]
    rfl
  obtain ⟨hresults, hmachine⟩ := h.machine.run (deed.stimuli s.loop.scheduler.state)
  have hfault (fault : Fault) : l.result? = some (.error fault) ↔
      .error fault ∈ m.results (serialise initial (past ++ [deed])) := by
    rw [hdoes.result_error, hserialise, Machine.results_append, List.mem_append, hresults]
    simp [(h.quiet hrun).fault fault]
  have hclose : l.result? = some (.ok ()) ↔ deed = .handle .close := by
    rw [hdoes.result_ok]
    simp [hdeed]
  refine ⟨⟨h.healthy.fault, h.healthy.stage, fun hs => ?_, ?_⟩, ?_, fun _ => hpending, ?_, ?_,
    fun hrun' => ⟨?_, fun fault => ?_⟩, fun result hended => ?_⟩
  · have hended := h.healthy.finished hs
    rw [hrun] at hended
    exact absurd hended (by decide)
  · exact hdoes.isOpen.trans h.healthy.isOpen
  · rw [← hpending]
    exact List.prefix_append _ _
  · rw [hserialise, Machine.after_append, hdoes.machine]
    exact hmachine
  · rw [List.foldl_append, ← h.state]
    exact hdoes.state
  · rw [List.mem_append, not_or]
    refine ⟨(h.quiet hrun).close, fun hmem => ?_⟩
    rw [hclose.mpr (List.mem_singleton.mp hmem).symm] at hrun'
    exact absurd hrun' (by simp)
  · rw [← hfault, hrun']
    simp
  · refine ⟨past, deed, rfl, h.quiet hrun, ?_, fun fault => ?_⟩
    · rw [← hclose, hended]
      simp
    · rw [← hfault, hended]
      simp

theorem advanceLoop (h : Records m initial commands past s) (now : Nat) :
    Records m initial commands (past ++ (s.loop.deed? now).toList) (s.advanceLoop now) := by
  rcases hrun : s.loop.result? with _ | result
  · have hstep := RunLoop.step_spec hrun now
    have hhangUp : s.loop.deed? now ≠ some .hangUp := by
      rw [ne_eq, RunLoop.deed?_eq_hangUp_iff, h.healthy.isOpen]
      simp
    rw [Session.advanceLoop]
    generalize s.loop.deed? now = deed, s.loop.step now = l at hstep hhangUp ⊢
    cases deed with
    | some deed =>
      refine h.does hrun ?_ hstep.does
      rintro rfl
      exact hhangUp rfl
    | none =>
      cases hstep with
      | rest hq hopen ht hphase =>
        rw [Option.toList_none, List.append_nil]
        refine h.passes ⟨⟨h.healthy.fault, h.healthy.stage, fun hs => ?_, h.healthy.isOpen⟩,
          ?_, rfl, fun _ => id, fun _ => rfl⟩
        · have hended := h.healthy.finished hs
          rw [hrun] at hended
          exact absurd hended (by decide)
        · exact hphase.trans hrun.symm
  · obtain ⟨hdeed, hstep⟩ := RunLoop.step_of_ended (by rw [hrun]; rfl) now
    rw [Session.advanceLoop, hdeed, hstep, Option.toList_none, List.append_nil]
    exact h

/-- The record is kept in every order of turns. -/
theorem play (h : Records m initial commands past s) (turns : List Turn) :
    Records m initial commands (past ++ s.history turns) (s.play turns) := by
  induction turns generalizing s past with
  | nil =>
    rw [history, List.append_nil]
    exact h
  | cons turn turns ih =>
    cases turn with
    | controller => exact ih (h.passes (passes_readLine h.healthy))
    | front => exact ih (h.passes (passes_advanceFront h.healthy))
    | scheduler now =>
      rw [history, ← List.append_assoc]
      exact ih (h.advanceLoop now)

end Records

end Session

end Chip8
