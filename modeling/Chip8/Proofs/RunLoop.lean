import Chip8.Proofs.Stimulus
import Chip8.Rom
import Chip8.RunLoop
import Mathlib.Logic.Function.Iterate

/-!
# The run loop is a serialisation

Commands, timer ticks and instructions reach the machine one at a time. What one step of the loop
does is a *deed*; the deeds of a run, in order, are its history. A history says all there is to say
about a run: executing it serially, without channel, clock and tickers, yields the machine, the
state and the end of the loop. Nothing is assumed about the clock, so the statements hold for every
sequence of readings, and commands may be sent and senders may leave between any two steps.
-/

namespace Chip8

/-! ## Deeds -/

/-- One thing that the run loop does. -/
inductive Deed
  /-- A command is received and handled. -/
  | handle (command : Command)
  /-- The timer deadline is serviced. -/
  | tick
  /-- The instruction deadline is serviced. -/
  | cadence
  /-- The loop finds that no command will come any more. -/
  | hangUp
deriving DecidableEq, Repr

namespace Deed

/-- The command that a deed handles. -/
def command? : Deed → Option Command
  | .handle command => some command
  | .tick | .cadence | .hangUp => none

/-- The state after a deed: only a request to pause changes it. -/
def nextState (state : RunState) : Deed → RunState
  | .handle .pause => state.toggle
  | _ => state

/-- What a deed does to the machine in the given state. A request to step executes an instruction
when paused, a serviced instruction deadline executes one when running. -/
def stimuli (state : RunState) : Deed → List Stimulus
  | .handle .pause => []
  | .handle .step => if state = .paused then [.cycle] else []
  | .handle (.setKeys mask) => [.keys mask]
  | .handle .close => []
  | .tick => [.tick]
  | .cadence => if state = .running then [.cycle] else []
  | .hangUp => []

end Deed

theorem handle_mem_iff {deeds : List Deed} {command : Command} :
    .handle command ∈ deeds ↔ command ∈ deeds.filterMap Deed.command? := by
  rw [List.mem_filterMap]
  constructor
  · intro h
    exact ⟨_, h, rfl⟩
  · rintro ⟨deed, hmem, hcommand⟩
    cases deed with
    | handle command' =>
      obtain rfl := Option.some.inj hcommand
      exact hmem
    | tick | cadence | hangUp => exact absurd hcommand (by simp [Deed.command?])

theorem filterMap_map_handle (commands : List Command) :
    (commands.map Deed.handle).filterMap Deed.command? = commands := by
  rw [List.filterMap_map]
  exact List.filterMap_some

/-- What a history does to the machine, when it begins in the given state. -/
def serialise (state : RunState) : List Deed → List Stimulus
  | [] => []
  | deed :: deeds => deed.stimuli state ++ serialise (deed.nextState state) deeds

theorem serialise_append (state : RunState) (deeds more : List Deed) :
    serialise state (deeds ++ more) =
      serialise state deeds ++ serialise (deeds.foldl Deed.nextState state) more := by
  induction deeds generalizing state with
  | nil => rfl
  | cons deed deeds ih => rw [List.cons_append, serialise, ih, serialise, List.append_assoc]; rfl

namespace Scheduler

@[simp] theorem machine_note (s : Scheduler) (event : Event) :
    (s.note event).machine = s.machine := rfl

@[simp] theorem state_note (s : Scheduler) (event : Event) : (s.note event).state = s.state := rfl

/-- Executing an instruction is one cycle of the machine, and fails when that fails. -/
theorem step_spec (s : Scheduler) :
    s.step.2.machine = s.machine.cycle.2 ∧ s.step.2.state = s.state ∧
      s.step.1 = s.machine.cycle.1.map fun _ => () := by
  rcases hc : s.machine.cycle with ⟨fault | e, machine⟩
  · cases fault <;> (rw [step, hc]; exact ⟨rfl, rfl, rfl⟩)
  · rw [step, hc]
    exact ⟨rfl, rfl, rfl⟩

/-- Executing an instruction in one state only is at most one cycle of the machine. -/
theorem stepWhen_spec (s : Scheduler) (state : RunState) :
    (s.stepWhen state).2.machine =
        s.machine.after (if s.state = state then [.cycle] else []) ∧
      (s.stepWhen state).2.state = s.state ∧
      ∀ fault, (s.stepWhen state).1 = .error fault ↔
        .error fault ∈ s.machine.results (if s.state = state then [.cycle] else []) := by
  obtain ⟨hmachine, hstate, hresult⟩ := s.step_spec
  rw [stepWhen]
  split
  · refine ⟨hmachine, hstate, fun fault => ?_⟩
    rw [hresult, Machine.results, Machine.results, List.mem_singleton]
    cases s.machine.cycle.1 <;> simp [Except.map, eq_comm]
  · exact ⟨rfl, rfl, fun fault => by simp [Machine.results]⟩

/-- What a command does to machine and state, when it stops the loop and when it fails. -/
theorem handle_spec (s : Scheduler) (command : Command) :
    (s.handle command).2.machine = s.machine.after ((Deed.handle command).stimuli s.state) ∧
      (s.handle command).2.state = (Deed.handle command).nextState s.state ∧
      ((s.handle command).1 = .ok .stop ↔ command = .close) ∧
      ∀ fault, (s.handle command).1 = .error fault ↔
        .error fault ∈ s.machine.results ((Deed.handle command).stimuli s.state) := by
  cases command with
  | pause => simp [handle, Deed.stimuli, Deed.nextState, Machine.results]
  | setKeys mask => simp [handle, Deed.stimuli, Deed.nextState, Machine.results, Machine.react]
  | close => simp [handle, Deed.stimuli, Deed.nextState, Machine.results]
  | step =>
    obtain ⟨hmachine, hstate, hfault⟩ := (s.note (.received .step)).stepWhen_spec .paused
    rw [handle]
    rcases hs : (s.note (.received .step)).stepWhen .paused with ⟨fault | done, after⟩
    · rw [hs] at hmachine hstate hfault
      refine ⟨hmachine, hstate, by simp, fun fault' => Iff.trans ?_ (hfault fault')⟩
      simp
    · rw [hs] at hmachine hstate hfault
      refine ⟨hmachine, hstate, by simp, fun fault' => Iff.trans ?_ (hfault fault')⟩
      simp

end Scheduler

/-! ## Single steps of the loop -/

namespace RunLoop

/-- What the next step of the loop does at the time `now`, if it does anything. -/
def deed? (l : RunLoop) (now : Nat) : Option Deed :=
  match l.phase, l.channel.receive.1 with
  | .ended _, _ => none
  | _, .message command => some (.handle command)
  | _, .closed => some .hangUp
  | .polling, .empty =>
    if l.timers.Due now then some .tick
    else if l.cycles.Due now then some .cadence
    else none
  | .waiting _, .empty => none

/-- What it means that a step from `l` to `l'` does a deed. -/
structure Does (l : RunLoop) (deed : Deed) (l' : RunLoop) : Prop where
  machine : l'.scheduler.machine = l.scheduler.machine.after (deed.stimuli l.scheduler.state)
  state : l'.scheduler.state = deed.nextState l.scheduler.state
  queue : deed.command?.toList ++ l'.channel.queue = l.channel.queue
  isOpen : l'.channel.isOpen = l.channel.isOpen
  ended : l'.phase = .polling ∨ l'.result?.isSome
  result_ok : l'.result? = some (.ok ()) ↔ deed = .handle .close ∨ deed = .hangUp
  result_error : ∀ fault, l'.result? = some (.error fault) ↔
    .error fault ∈ l.scheduler.machine.results (deed.stimuli l.scheduler.state)

/-- Serving a command leaves the loop the way that handling it asks for. -/
theorem serve_spec (l : RunLoop) (command : Command) :
    (l.serve command).scheduler.machine = (l.scheduler.handle command).2.machine ∧
      (l.serve command).scheduler.state = (l.scheduler.handle command).2.state ∧
      (l.serve command).channel = l.channel ∧
      ((l.serve command).phase = .polling ∨ (l.serve command).result?.isSome) ∧
      ((l.serve command).result? = some (.ok ()) ↔ (l.scheduler.handle command).1 = .ok .stop) ∧
      ∀ fault, (l.serve command).result? = some (.error fault) ↔
        (l.scheduler.handle command).1 = .error fault := by
  rw [serve]
  rcases l.scheduler.handle command with ⟨fault | flow, after⟩
  · exact ⟨rfl, rfl, rfl, Or.inr rfl, by simp [result?], by simp [result?]⟩
  · cases flow with
    | proceed => exact ⟨rfl, rfl, rfl, Or.inl rfl, by simp [result?], by simp [result?]⟩
    | stop => exact ⟨rfl, rfl, rfl, Or.inr rfl, by simp [result?, stop], by simp [result?, stop]⟩

theorem does_serve {l : RunLoop} {command : Command} {rest : List Command}
    (hq : l.channel.queue = command :: rest) :
    l.Does (.handle command)
      ({ l with channel := { l.channel with queue := rest } }.serve command) := by
  obtain ⟨hmachine, hstate, hstop, hfault⟩ := l.scheduler.handle_spec command
  obtain ⟨hmachine', hstate', hchannel, hended, hok, herror⟩ :=
    { l with channel := { l.channel with queue := rest } }.serve_spec command
  refine ⟨hmachine'.trans hmachine, hstate'.trans hstate, ?_, ?_, hended, ?_, ?_⟩
  · rw [hchannel]
    exact hq.symm
  · rw [hchannel]
  · rw [hok, hstop]
    simp
  · intro fault
    rw [herror, hfault]

theorem does_disconnect (l : RunLoop) : l.Does .hangUp l.disconnect where
  machine := rfl
  state := rfl
  queue := rfl
  isOpen := rfl
  ended := Or.inr rfl
  result_ok := by simp [result?, disconnect, stop]
  result_error fault := by simp [result?, disconnect, stop, Deed.stimuli, Machine.results]

theorem does_fireTimers (l : RunLoop) (now : Nat) : l.Does .tick (l.fireTimers now) where
  machine := rfl
  state := rfl
  queue := rfl
  isOpen := rfl
  ended := Or.inl rfl
  result_ok := by simp [result?, fireTimers]
  result_error fault := by simp [result?, fireTimers, Deed.stimuli, Machine.results]

theorem does_fireCycles (l : RunLoop) (now : Nat) : l.Does .cadence (l.fireCycles now) := by
  obtain ⟨hmachine, hstate, hfault⟩ := l.scheduler.stepWhen_spec .running
  rw [fireCycles]
  rcases hs : l.scheduler.stepWhen .running with ⟨fault | done, after⟩
  · rw [hs] at hmachine hstate hfault
    refine ⟨hmachine, hstate, rfl, rfl, Or.inr rfl, by simp [result?], fun fault' => ?_⟩
    rw [Deed.stimuli, ← hfault]
    simp [result?]
  · rw [hs] at hmachine hstate hfault
    refine ⟨hmachine, hstate, rfl, rfl, Or.inl rfl, by simp [result?], fun fault' => ?_⟩
    rw [Deed.stimuli, ← hfault]
    simp [result?]

/-- What a step of a running loop can do, and when: a queued command goes before everything else,
and a due timer tick before a due instruction. -/
inductive Step (l : RunLoop) (now : Nat) : Option Deed → RunLoop → Prop
  | serve {command : Command} {rest : List Command} (hq : l.channel.queue = command :: rest) :
      Step l now (some (.handle command))
        ({ l with channel := { l.channel with queue := rest } }.serve command)
  | disconnect (hq : l.channel.queue = []) (hopen : l.channel.isOpen = false) :
      Step l now (some .hangUp) l.disconnect
  | tick (hq : l.channel.queue = []) (hopen : l.channel.isOpen = true) (hp : l.phase = .polling)
      (ht : l.timers.Due now) : Step l now (some .tick) (l.fireTimers now)
  | cadence (hq : l.channel.queue = []) (hopen : l.channel.isOpen = true) (hp : l.phase = .polling)
      (ht : ¬l.timers.Due now) (hc : l.cycles.Due now) :
      Step l now (some .cadence) (l.fireCycles now)
  | rest {phase : Phase} (hq : l.channel.queue = []) (hopen : l.channel.isOpen = true)
      (ht : ¬(l.phase = .polling ∧ l.timers.Due now))
      (hphase : { l with phase := phase }.result? = none) :
      Step l now none { l with phase := phase }

theorem step_spec {l : RunLoop} (hrun : l.result? = none) (now : Nat) :
    Step l now (l.deed? now) (l.step now) := by
  obtain ⟨scheduler, cycles, timers, ⟨queue, isOpen⟩, phase⟩ := l
  cases phase with
  | ended result => exact absurd hrun (by simp [result?])
  | polling =>
    rcases queue with _ | ⟨command, rest⟩
    · cases isOpen with
      | false => exact .disconnect rfl rfl
      | true =>
        show Step _ now (if timers.Due now then some .tick else if cycles.Due now then some .cadence
          else none) (work _ now)
        rw [work]
        by_cases ht : timers.Due now
        · rw [if_pos ht, if_pos ht]
          exact .tick rfl rfl rfl ht
        · rw [if_neg ht, if_neg ht]
          by_cases hc : cycles.Due now
          · rw [if_pos hc, if_pos hc]
            exact .cadence rfl rfl rfl ht hc
          · rw [if_neg hc, if_neg hc]
            exact .rest rfl rfl (fun h => ht h.2) rfl
    · exact .serve rfl
  | waiting deadline =>
    rcases queue with _ | ⟨command, rest⟩
    · cases isOpen with
      | false => exact .disconnect rfl rfl
      | true =>
        show Step _ now none (if deadline ≤ now then _ else _)
        by_cases hd : deadline ≤ now
        · rw [if_pos hd]
          exact .rest rfl rfl (by simp) rfl
        · rw [if_neg hd]
          exact .rest rfl rfl (by simp) rfl
    · exact .serve rfl

/-- Every step of a running loop does what its deed says. -/
theorem Step.does {l l' : RunLoop} {now : Nat} {deed : Deed} (h : Step l now (some deed) l') :
    l.Does deed l' := by
  cases h with
  | serve hq => exact does_serve hq
  | disconnect => exact l.does_disconnect
  | tick => exact l.does_fireTimers now
  | cadence => exact l.does_fireCycles now

/-- A queued command is handled before everything else, and with that the turn of the loop is over.
-/
theorem deed?_of_queue {l : RunLoop} {command : Command} {rest : List Command}
    (hrun : l.result? = none) (hq : l.channel.queue = command :: rest) (now : Nat) :
    l.deed? now = some (.handle command) ∧
      ((l.step now).phase = .polling ∨ (l.step now).result?.isSome) := by
  have hstep := step_spec hrun now
  generalize l.deed? now = deed, l.step now = l₁ at hstep ⊢
  cases hstep with
  | serve hq' =>
    rw [hq] at hq'
    obtain ⟨rfl, rfl⟩ := List.cons.inj hq'
    exact ⟨rfl, (does_serve hq).ended⟩
  | disconnect hq' | tick hq' | cadence hq' | rest hq' =>
    rw [hq] at hq'
    exact absurd hq' (by simp)

/-- A loop that was left does nothing. -/
theorem step_of_ended {l : RunLoop} (hended : l.result?.isSome) (now : Nat) :
    l.deed? now = none ∧ l.step now = l := by
  refine ⟨?_, by rw [step, if_pos hended]⟩
  rcases hp : l.phase with _ | deadline | result
  · simp [result?, hp] at hended
  · simp [result?, hp] at hended
  · rw [deed?, hp]

/-- The loop hangs up when nothing is queued and nothing more will be. -/
theorem deed?_eq_hangUp_iff (l : RunLoop) (now : Nat) :
    l.deed? now = some .hangUp ↔
      l.result? = none ∧ l.channel.queue = [] ∧ l.channel.isOpen = false := by
  rcases hres : l.result? with _ | result
  · have hstep := step_spec hres now
    generalize l.deed? now = deed, l.step now = l₁ at hstep ⊢
    cases hstep with
    | serve hq => simp [hq]
    | disconnect hq hopen => simp [hq, hopen]
    | tick hq hopen | cadence hq hopen | rest hq hopen => simp [hopen]
  · obtain ⟨hdeed, -⟩ := step_of_ended (by rw [hres]; rfl) now
    simp [hdeed]

end RunLoop

/-! ## Runs of the loop -/

/-- What can happen to a loop. -/
inductive Occasion
  /-- A command is sent. -/
  | send (command : Command)
  /-- The senders leave. -/
  | hangUp
  /-- The loop takes a step, and reads this time if it looks at the clock. -/
  | step (now : Nat)
deriving DecidableEq, Repr

/-- The commands that are sent, in order. -/
def sent (occasions : List Occasion) : List Command :=
  occasions.filterMap fun
    | .send command => some command
    | .hangUp | .step _ => none

namespace RunLoop

/-- The loop after one occasion. -/
def meet (l : RunLoop) : Occasion → RunLoop
  | .send command => l.send command
  | .hangUp => l.hangUp
  | .step now => l.step now

/-- The loop after several occasions. -/
def along (l : RunLoop) (occasions : List Occasion) : RunLoop := occasions.foldl meet l

/-- What the loop does on several occasions, in order. -/
def history (l : RunLoop) : List Occasion → List Deed
  | [] => []
  | .send command :: occasions => (l.send command).history occasions
  | .hangUp :: occasions => l.hangUp.history occasions
  | .step now :: occasions => (l.deed? now).toList ++ (l.step now).history occasions

/-- A loop that was left does nothing more; commands that are sent stay in the channel. -/
theorem along_of_ended {l : RunLoop} (hended : l.result?.isSome) (occasions : List Occasion) :
    l.history occasions = [] ∧ (l.along occasions).result? = l.result? ∧
      (l.along occasions).scheduler = l.scheduler ∧
      (l.along occasions).channel.queue = l.channel.queue ++ sent occasions := by
  induction occasions generalizing l with
  | nil => exact ⟨rfl, rfl, rfl, (List.append_nil _).symm⟩
  | cons occasion occasions ih =>
    cases occasion with
    | send command =>
      obtain ⟨hhistory, hresult, hscheduler, hqueue⟩ := @ih (l.send command) hended
      exact ⟨hhistory, hresult, hscheduler, hqueue.trans (List.append_assoc _ _ _)⟩
    | hangUp => exact @ih l.hangUp hended
    | step now =>
      obtain ⟨hdeed, hstep⟩ := step_of_ended hended now
      obtain ⟨hhistory, halong⟩ := ih hended
      show (l.deed? now).toList ++ (l.step now).history occasions = [] ∧
        ((l.step now).along occasions).result? = l.result? ∧
        ((l.step now).along occasions).scheduler = l.scheduler ∧
        ((l.step now).along occasions).channel.queue = l.channel.queue ++ sent occasions
      rw [hdeed, hstep, hhistory]
      exact ⟨rfl, halong⟩

/-- What it means that the loop comes from `l` to `l'` by doing `deeds` one after another, while
`commands` are sent. -/
structure Serial (l : RunLoop) (commands : List Command) (deeds : List Deed) (l' : RunLoop) :
    Prop where
  queue : deeds.filterMap Deed.command? ++ l'.channel.queue = l.channel.queue ++ commands
  machine : l'.scheduler.machine =
    l.scheduler.machine.after (serialise l.scheduler.state deeds)
  state : l'.scheduler.state = deeds.foldl Deed.nextState l.scheduler.state
  result_ok : l'.result? = some (.ok ()) ↔ .handle .close ∈ deeds ∨ .hangUp ∈ deeds
  result_error : ∀ fault, l'.result? = some (.error fault) ↔
    .error fault ∈ l.scheduler.machine.results (serialise l.scheduler.state deeds)

namespace Serial

variable {l l₁ l' : RunLoop} {commands : List Command} {deed : Deed} {deeds : List Deed}

theorem nil (hrun : l.result? = none) : Serial l [] [] l where
  queue := (List.append_nil _).symm
  machine := rfl
  state := rfl
  result_ok := by simp [hrun]
  result_error fault := by simp [hrun, serialise, Machine.results]

/-- What a first deed takes from the channel is handled first. -/
theorem queue_cons (hd : l.Does deed l₁)
    (hq : deeds.filterMap Deed.command? ++ l'.channel.queue = l₁.channel.queue ++ commands) :
    (deed :: deeds).filterMap Deed.command? ++ l'.channel.queue = l.channel.queue ++ commands := by
  have hcons : (deed :: deeds).filterMap Deed.command? =
      deed.command?.toList ++ deeds.filterMap Deed.command? := by
    rw [List.filterMap_cons]
    cases deed.command? <;> rfl
  rw [hcons, List.append_assoc, hq, ← hd.queue, List.append_assoc]

/-- A deed that keeps the loop running comes before the others. -/
theorem cons (hd : l.Does deed l₁) (hrun : l₁.result? = none) (h : Serial l₁ commands deeds l') :
    Serial l commands (deed :: deeds) l' where
  queue := queue_cons hd h.queue
  machine := by
    rw [h.machine, hd.machine, hd.state, serialise, Machine.after_append]
  state := by
    rw [h.state, hd.state, List.foldl_cons]
  result_ok := by
    have hne : ¬(deed = .handle .close ∨ deed = .hangUp) := by
      rw [← hd.result_ok, hrun]
      simp
    rw [not_or] at hne
    rw [h.result_ok, List.mem_cons, List.mem_cons]
    simp [hne.1, hne.2, eq_comm]
  result_error fault := by
    have hnot : .error fault ∉ l.scheduler.machine.results (deed.stimuli l.scheduler.state) := by
      rw [← hd.result_error, hrun]
      simp
    rw [h.result_error, hd.machine, hd.state, serialise, Machine.results_append, List.mem_append]
    simp [hnot]

/-- A deed that ends the loop is the last one. -/
theorem last (hd : l.Does deed l₁) (hended : l₁.result?.isSome) (occasions : List Occasion) :
    Serial l (sent occasions) (deed :: l₁.history occasions) (l₁.along occasions) := by
  obtain ⟨hhistory, hresult, hscheduler, hqueue⟩ := along_of_ended hended occasions
  rw [hhistory]
  refine ⟨queue_cons hd hqueue, ?_, ?_, ?_, fun fault => ?_⟩
  · rw [hscheduler, hd.machine, serialise, serialise, List.append_nil]
  · rw [hscheduler, hd.state]
    rfl
  · rw [hresult, hd.result_ok, List.mem_singleton, List.mem_singleton, eq_comm, @eq_comm _ deed]
  · rw [hresult, hd.result_error, serialise, serialise, List.append_nil]

end Serial

/-- The run loop is a serialisation: its history says what it does. -/
theorem serial_along {l : RunLoop} (hrun : l.result? = none) (occasions : List Occasion) :
    Serial l (sent occasions) (l.history occasions) (l.along occasions) := by
  induction occasions generalizing l with
  | nil => exact .nil hrun
  | cons occasion occasions ih =>
    cases occasion with
    | send command =>
      -- Only the channel differs, and what is sent now stands before what is sent later.
      have h := @ih (l.send command) hrun
      exact { h with queue := h.queue.trans (List.append_assoc _ _ _) }
    | hangUp =>
      have h := @ih l.hangUp hrun
      exact { h with }
    | step now =>
      have hstep := step_spec hrun now
      show Serial l (sent occasions) ((l.deed? now).toList ++ (l.step now).history occasions)
        ((l.step now).along occasions)
      generalize l.deed? now = deed, l.step now = l₁ at hstep ⊢
      cases deed with
      | none =>
        cases hstep with
        | rest hq hopen ht hphase =>
          have h := ih hphase
          exact { h with }
      | some deed =>
        rcases hres : l₁.result? with _ | result
        · exact .cons hstep.does hres (ih hres)
        · exact .last hstep.does (by rw [hres]; rfl) occasions

end RunLoop

/-! ## Main statement -/

/-- A paused scheduler whose machine is about to execute zero bytes, which are ignored routines. -/
def Scheduler.idling : Scheduler :=
  .ofMachine { Machine.ofProgram [] (.cyclic []) with memory := .zero, pc := 0 }
    (.ofRates 1000 60 true) (.fresh false)

end Chip8
