import Chip8.Proofs.RunLoop

/-!
# Runs over queued commands

Commands that are queued before the run loop is entered settle the run in advance. A queued command
goes before every deadline, so the run handles the commands in order up to the first one that ends
it, a request to stop or a step that fails, and leaves the others in the queue for the next run. The
clock has no part in it.

The commands that one run takes are a *segment* of the queue. What they do is said without the loop:
commands act one after another on a machine and the state it is in.
-/

namespace Chip8

/-- A machine under commands: the machine and whether it is paused. -/
@[ext] structure Steered where
  /-- The machine. -/
  machine : Machine
  /-- Whether instructions are executed on their own. -/
  state : RunState

/-- What a scheduler has under command. -/
def Scheduler.steered (s : Scheduler) : Steered := ⟨s.machine, s.state⟩

/-- The keys that a command asks for. -/
def Command.mask? : Command → Option KeyMask
  | .setKeys mask => some mask
  | .pause | .step | .close => none

namespace Steered

variable {c : Steered} {command : Command} {commands q : List Command}
  {result : Except Fault Unit}

/-! ## What commands do -/

/-- What a command does: a request to step executes an instruction when paused. -/
def obey (c : Steered) : Command → Steered
  | .pause => { c with state := c.state.toggle }
  | .step => if c.state = .paused then { c with machine := c.machine.cycle.2 } else c
  | .setKeys mask => { c with machine := c.machine.setKeys mask }
  | .close => c

/-- What commands do one after another. -/
def follow (c : Steered) (commands : List Command) : Steered := commands.foldl obey c

/-- How a command ends the run that handles it, `none` if the run goes on. -/
def ending? (c : Steered) : Command → Option (Except Fault Unit)
  | .close => some (.ok ())
  | .step =>
    if c.state = .paused then
      match c.machine.cycle.1 with
      | .ok _ => none
      | .error fault => some (.error fault)
    else none
  | .pause | .setKeys _ => none

theorem obey_spec (c : Steered) (command : Command) :
    (c.obey command).machine = c.machine.after ((Deed.handle command).stimuli c.state) ∧
      (c.obey command).state = (Deed.handle command).nextState c.state := by
  cases command with
  | step =>
    rw [obey, Deed.stimuli]
    split <;> exact ⟨rfl, rfl⟩
  | _ => exact ⟨rfl, rfl⟩

theorem ending?_eq_ok_iff : c.ending? command = some (.ok ()) ↔ command = .close := by
  cases command with
  | step =>
    rw [ending?]
    split
    · cases c.machine.cycle.1 <;> simp
    · simp
  | _ => simp [ending?]

theorem ending?_eq_error_iff {fault : Fault} :
    c.ending? command = some (.error fault) ↔
      command = .step ∧ c.state = .paused ∧ c.machine.cycle.1 = .error fault := by
  cases command with
  | step =>
    rw [ending?]
    by_cases hstate : c.state = .paused
    · rw [if_pos hstate]
      cases c.machine.cycle.1 <;> simp [hstate]
    · rw [if_neg hstate]
      simp [hstate]
  | _ => simp [ending?]

theorem error_mem_results_stimuli_iff {fault : Fault} :
    .error fault ∈ c.machine.results ((Deed.handle command).stimuli c.state) ↔
      c.ending? command = some (.error fault) := by
  rw [ending?_eq_error_iff]
  cases command with
  | step =>
    by_cases hpaused : c.state = .paused
    · simp [Deed.stimuli, hpaused, Machine.results, eq_comm]
    · simp [Deed.stimuli, hpaused, Machine.results]
  | _ => simp [Deed.stimuli, Machine.results]

theorem follow_append (c : Steered) (commands more : List Command) :
    c.follow (commands ++ more) = (c.follow commands).follow more := List.foldl_append

/-- What commands do to the machine is what the run loop does that handles them and nothing else. -/
theorem machine_follow (c : Steered) (commands : List Command) :
    (c.follow commands).machine =
      c.machine.after (serialise c.state (commands.map Deed.handle)) := by
  induction commands generalizing c with
  | nil => rfl
  | cons command commands ih =>
    obtain ⟨hmachine, hstate⟩ := c.obey_spec command
    rw [List.map_cons, serialise, Machine.after_append, ← hmachine, ← hstate]
    exact ih (c.obey command)

theorem state_follow (c : Steered) (commands : List Command) :
    (c.follow commands).state = RunState.toggle^[commands.count .pause] c.state := by
  induction commands generalizing c with
  | nil => rfl
  | cons command commands ih =>
    have hstep := ih (c.obey command)
    by_cases hpause : command = .pause
    · rw [hpause, List.count_cons_self, Function.iterate_succ_apply]
      rw [hpause] at hstep
      exact hstep
    · have hstate : (c.obey command).state = c.state := by
        rw [(c.obey_spec command).2, Deed.nextState]
        simpa using hpause
      rw [List.count_cons_of_ne hpause, ← hstate]
      exact hstep

theorem keys_follow (c : Steered) (commands : List Command) :
    (c.follow commands).machine.keys = (commands.filterMap Command.mask?).getLastD c.machine.keys := by
  induction commands generalizing c with
  | nil => rfl
  | cons command commands ih =>
    have hstep := ih (c.obey command)
    cases command with
    | setKeys mask =>
      show _ = (mask :: commands.filterMap Command.mask?).getLastD c.machine.keys
      rw [List.getLastD_cons]
      exact hstep
    | step =>
      have hkeys : (c.obey .step).machine.keys = c.machine.keys := by
        rw [obey]
        split
        · exact c.machine.keys_cycle
        · rfl
      rw [hkeys] at hstep
      exact hstep
    | pause => exact hstep
    | close => exact hstep

theorem reliable_follow (hr : c.machine.random.Reliable) (commands : List Command) :
    (c.follow commands).machine.random.Reliable := by
  rw [machine_follow]
  exact (Machine.reliable_run hr _).1

/-! ## Segments -/

/-- The last of the commands ends the run that handles them, in this way. -/
def EndsIn (c : Steered) (commands : List Command) (result : Except Fault Unit) : Prop :=
  ∃ before command, commands = before ++ [command] ∧
    (c.follow before).ending? command = some result

/-- The last of the commands ends the run that handles them. -/
def Ending (c : Steered) (commands : List Command) : Prop := ∃ result, c.EndsIn commands result

/-- A run that handles the commands ends in this way: as their last one asks for, and without a fault
if that does not end it. -/
def Yields (c : Steered) (commands : List Command) (result : Except Fault Unit) : Prop :=
  c.EndsIn commands result ∨ ¬c.Ending commands ∧ result = .ok ()

/-- The commands of a queue that one run handles. -/
def segment (c : Steered) : List Command → List Command
  | [] => []
  | command :: rest =>
    command :: if (c.ending? command).isSome then [] else (c.obey command).segment rest

/-- What a run does when nobody sends: it handles a segment and hangs up if that does not end it. -/
def deeds (c : Steered) : List Command → List Deed
  | [] => [.hangUp]
  | command :: rest =>
    .handle command :: if (c.ending? command).isSome then [] else (c.obey command).deeds rest

/-- How that run ends. -/
def outcome (c : Steered) : List Command → Except Fault Unit
  | [] => .ok ()
  | command :: rest => (c.ending? command).getD ((c.obey command).outcome rest)

theorem not_endsIn_nil : ¬c.EndsIn [] result := by
  rintro ⟨before, command, h, -⟩
  exact absurd h (by simp)

theorem endsIn_cons : c.EndsIn (command :: commands) result ↔
    commands = [] ∧ c.ending? command = some result ∨
      (c.obey command).EndsIn commands result := by
  constructor
  · rintro ⟨_ | ⟨first, before⟩, last, h, hending⟩
    · obtain ⟨rfl, rfl⟩ := List.cons.inj h
      exact Or.inl ⟨rfl, hending⟩
    · obtain ⟨rfl, rfl⟩ := List.cons.inj h
      exact Or.inr ⟨before, last, rfl, hending⟩
  · rintro (⟨rfl, hending⟩ | ⟨before, last, rfl, hending⟩)
    · exact ⟨[], command, rfl, hending⟩
    · exact ⟨command :: before, last, rfl, hending⟩

/-- Commands that end a run end it by a request to stop or by a step that fails. -/
theorem endsIn_iff (hr : c.machine.random.Reliable) : c.EndsIn commands result ↔
    (∃ before, commands = before ++ [.close] ∧ result = .ok ()) ∨
    ∃ before word, commands = before ++ [.step] ∧ (c.follow before).state = .paused ∧
      (c.follow before).machine.cycle = (.error (.unrecognised word), (c.follow before).machine) ∧
      result = .error (.unrecognised word) := by
  constructor
  · rintro ⟨before, command, rfl, hending⟩
    rcases result with fault | done
    · obtain ⟨rfl, hstate, hfault⟩ := ending?_eq_error_iff.mp hending
      have hmachine := Machine.cycle_error (Prod.ext hfault rfl)
      cases fault with
      | randomFailed => exact absurd hfault (Machine.reliable_cycle (reliable_follow hr before)).2
      | unrecognised word =>
        exact Or.inr ⟨before, word, rfl, hstate, Prod.ext hfault hmachine, rfl⟩
    · rw [ending?_eq_ok_iff.mp hending]
      exact Or.inl ⟨before, rfl, rfl⟩
  · rintro (⟨before, rfl, rfl⟩ | ⟨before, word, rfl, hstate, hcycle, rfl⟩)
    · exact ⟨before, .close, rfl, rfl⟩
    · exact ⟨before, .step, rfl, ending?_eq_error_iff.mpr ⟨rfl, hstate, by rw [hcycle]⟩⟩

theorem EndsIn.unique {result' : Except Fault Unit} (h : c.EndsIn commands result)
    (h' : c.EndsIn commands result') : result = result' := by
  obtain ⟨before, command, rfl, hending⟩ := h
  obtain ⟨before', command', heq, hending'⟩ := h'
  obtain ⟨rfl, rfl⟩ := List.append_singleton_inj.mp heq
  rw [hending] at hending'
  exact Option.some.inj hending'

theorem exists_endsIn_cons :
    (∃ before, before <+: command :: commands ∧ c.EndsIn before result) ↔
      c.ending? command = some result ∨
        ∃ before, before <+: commands ∧ (c.obey command).EndsIn before result := by
  constructor
  · rintro ⟨_ | ⟨first, before⟩, hbefore, hends⟩
    · exact absurd hends not_endsIn_nil
    · obtain ⟨rfl, hrest⟩ := List.cons_prefix_cons.mp hbefore
      rcases endsIn_cons.mp hends with ⟨rfl, hending⟩ | hends
      · exact Or.inl hending
      · exact Or.inr ⟨before, hrest, hends⟩
  · rintro (hending | ⟨before, hrest, hends⟩)
    · exact ⟨[command], ⟨commands, rfl⟩, endsIn_cons.mpr (Or.inl ⟨rfl, hending⟩)⟩
    · exact ⟨command :: before, List.cons_prefix_cons.mpr ⟨rfl, hrest⟩,
        endsIn_cons.mpr (Or.inr hends)⟩

theorem not_exists_endsIn_nil : ¬∃ before, before <+: [] ∧ c.EndsIn before result := by
  rintro ⟨before, hbefore, hends⟩
  rw [List.prefix_nil.mp hbefore] at hends
  exact not_endsIn_nil hends

/-- Commands contain a request to stop when some of the first ones end a run without a fault. -/
theorem close_mem_iff : .close ∈ commands ↔
    ∃ before, before <+: commands ∧ c.EndsIn before (.ok ()) := by
  induction commands generalizing c with
  | nil =>
    exact ⟨fun h => absurd h List.not_mem_nil, fun h => absurd h not_exists_endsIn_nil⟩
  | cons command commands ih =>
    rw [List.mem_cons, exists_endsIn_cons, ending?_eq_ok_iff, ih, eq_comm]

/-- Commands make a cycle fail when some of the first ones end a run with that fault. -/
theorem error_mem_results_iff {fault : Fault} :
    .error fault ∈ c.machine.results (serialise c.state (commands.map Deed.handle)) ↔
      ∃ before, before <+: commands ∧ c.EndsIn before (.error fault) := by
  induction commands generalizing c with
  | nil =>
    exact ⟨fun h => absurd h List.not_mem_nil, fun h => absurd h not_exists_endsIn_nil⟩
  | cons command commands ih =>
    obtain ⟨hmachine, hstate⟩ := c.obey_spec command
    rw [exists_endsIn_cons, ← ih, List.map_cons, serialise, Machine.results_append, List.mem_append,
      ← hmachine, ← hstate, error_mem_results_stimuli_iff]

theorem segment_initial (c : Steered) (q : List Command) : c.segment q <+: q := by
  induction q generalizing c with
  | nil => exact List.prefix_rfl
  | cons command rest ih =>
    rw [segment]
    split
    · exact ⟨rest, rfl⟩
    · rw [List.prefix_cons_inj]
      exact ih _

/-- No shorter part of the queue ends a run. -/
theorem segment_shortest (h : commands <+: q) (hends : c.Ending commands) :
    c.segment q <+: commands := by
  obtain ⟨result, hends⟩ := hends
  induction q generalizing c commands with
  | nil =>
    rw [List.prefix_nil.mp h] at hends
    exact absurd hends not_endsIn_nil
  | cons command rest ih =>
    rcases commands with _ | ⟨first, commands⟩
    · exact absurd hends not_endsIn_nil
    obtain ⟨rfl, hrest⟩ := List.cons_prefix_cons.mp h
    rw [segment, List.prefix_cons_inj]
    rcases endsIn_cons.mp hends with ⟨rfl, hending⟩ | hends
    · simp only [hending, Option.isSome_some, if_true, List.prefix_rfl]
    · split
      · exact List.nil_prefix
      · exact ih hrest hends

/-- A segment ends a run or is the whole queue; this also says what the run does and how it ends. -/
theorem segment_cases (c : Steered) (q : List Command) :
    (c.EndsIn (c.segment q) (c.outcome q) ∧ c.deeds q = (c.segment q).map .handle) ∨
    (¬c.Ending (c.segment q) ∧ c.segment q = q ∧ c.outcome q = .ok () ∧
      c.deeds q = q.map .handle ++ [.hangUp]) := by
  induction q generalizing c with
  | nil => exact Or.inr ⟨fun ⟨_, h⟩ => not_endsIn_nil h, rfl, rfl, rfl⟩
  | cons command rest ih =>
    rw [segment, outcome, deeds]
    rcases hending : c.ending? command with _ | result
    · rw [Option.isSome_none, if_neg (by simp), if_neg (by simp), Option.getD_none]
      rcases ih (c.obey command) with ⟨hends, hdeeds⟩ | ⟨hnot, hsegment, houtcome, hdeeds⟩
      · exact Or.inl ⟨endsIn_cons.mpr (Or.inr hends), by rw [hdeeds]; rfl⟩
      · refine Or.inr ⟨?_, by rw [hsegment], houtcome, by rw [hdeeds]; rfl⟩
        rintro ⟨result, hends⟩
        rcases endsIn_cons.mp hends with ⟨-, hsome⟩ | hends
        · rw [hending] at hsome
          exact absurd hsome (by simp)
        · exact hnot ⟨result, hends⟩
    · rw [Option.isSome_some, if_pos rfl, if_pos rfl, Option.getD_some]
      exact Or.inl ⟨endsIn_cons.mpr (Or.inl ⟨rfl, hending⟩), rfl⟩

/-- Commands with a request to stop at their end have a segment that ends a run. -/
theorem ending_segment_close (c : Steered) (commands : List Command) :
    c.Ending (c.segment (commands ++ [.close])) := by
  rcases c.segment_cases (commands ++ [.close]) with ⟨hends, -⟩ | ⟨-, hwhole, -⟩
  · exact ⟨_, hends⟩
  · rw [hwhole]
    exact ⟨.ok (), commands, .close, rfl, rfl⟩

theorem ending_segment_cons (hnone : c.ending? command = none) {rest : List Command} :
    c.Ending (c.segment (command :: rest)) ↔
      (c.obey command).Ending ((c.obey command).segment rest) := by
  rw [segment, hnone, Option.isSome_none, if_neg (by simp)]
  refine exists_congr fun result => ?_
  rw [endsIn_cons, hnone]
  simp

/-- What is sent behind a segment that ends a run is not looked at. -/
theorem append_of_ending (h : c.Ending (c.segment q)) (more : List Command) :
    c.segment (q ++ more) = c.segment q ∧ c.deeds (q ++ more) = c.deeds q ∧
      c.outcome (q ++ more) = c.outcome q := by
  induction q generalizing c with
  | nil =>
    obtain ⟨result, hends⟩ := h
    exact absurd hends not_endsIn_nil
  | cons command rest ih =>
    rcases hending : c.ending? command with _ | result
    · obtain ⟨hsegment, hdeeds, houtcome⟩ := ih ((ending_segment_cons hending).mp h)
      simp only [List.cons_append, segment, deeds, outcome, hsegment, hdeeds, houtcome]
      exact ⟨trivial, trivial, trivial⟩
    · simp only [List.cons_append, segment, deeds, outcome, hending, Option.isSome_some, if_true,
        Option.getD_some]
      exact ⟨trivial, trivial, trivial⟩

theorem length_deeds_pos (c : Steered) (q : List Command) : 0 < (c.deeds q).length := by
  cases q <;> exact Nat.succ_pos _

/-- How many commands the first runs take from the queue, when every run takes the segment that the
runs before it have left in front. -/
def consumed (c : Steered) (q : List Command) : Nat → Nat
  | 0 => 0
  | k + 1 =>
    let n := c.consumed q k
    n + ((c.follow (q.take n)).segment (q.drop n)).length

/-- What one more run takes comes next in the queue. -/
theorem take_consumed_succ (c : Steered) (q : List Command) (k : Nat) :
    let n := c.consumed q k
    q.take (c.consumed q (k + 1)) = q.take n ++ (c.follow (q.take n)).segment (q.drop n) := by
  intro n
  have hnext := (c.follow (q.take n)).segment_initial (q.drop n)
  rw [consumed, List.take_add, ← List.prefix_iff_eq_take.mp hnext]

end Steered

/-! ## Runs -/

/-- The number of steps that the loop takes. -/
def steps (occasions : List Occasion) : Nat :=
  occasions.countP fun
    | .step _ => true
    | .send _ | .hangUp => false

@[simp] theorem steps_step (now : Nat) (occasions : List Occasion) :
    steps (.step now :: occasions) = steps occasions + 1 := List.countP_cons_of_pos rfl

namespace RunLoop

variable {l l' : RunLoop} {command : Command} {rest : List Command}

/-- Handling a command does what it does to the machine under commands, and ends the loop when it
ends a run. -/
theorem Does.obeys (h : l.Does (.handle command) l') :
    l'.scheduler.steered = l.scheduler.steered.obey command ∧
      l'.result? = l.scheduler.steered.ending? command := by
  obtain ⟨hmachine, hstate⟩ := l.scheduler.steered.obey_spec command
  refine ⟨Steered.ext (h.machine.trans hmachine.symm) (h.state.trans hstate.symm), ?_⟩
  refine Option.ext fun result => ?_
  rcases result with fault | done
  · rw [h.result_error, ← Steered.error_mem_results_stimuli_iff]
    rfl
  · rw [h.result_ok, Steered.ending?_eq_ok_iff]
    simp

theorem step_of_queue (hrun : l.result? = none) (hq : l.channel.queue = command :: rest) (now : Nat) :
    l.deed? now = some (.handle command) ∧ l.Does (.handle command) (l.step now) ∧
      (l.step now).channel.queue = rest := by
  obtain ⟨hdeed, -⟩ := deed?_of_queue hrun hq now
  have hstep := step_spec hrun now
  rw [hdeed] at hstep
  have hdoes := hstep.does
  have hqueue := hdoes.queue
  rw [hq] at hqueue
  exact ⟨hdeed, hdoes, (List.cons.inj hqueue).2⟩

theorem step_of_closed (hrun : l.result? = none) (hq : l.channel.queue = [])
    (hopen : l.channel.isOpen = false) (now : Nat) :
    l.deed? now = some .hangUp ∧ l.Does .hangUp (l.step now) ∧
      (l.step now).result? = some (.ok ()) := by
  have hdeed := (l.deed?_eq_hangUp_iff now).mpr ⟨hrun, hq, hopen⟩
  have hstep := step_spec hrun now
  rw [hdeed] at hstep
  exact ⟨hdeed, hstep.does, hstep.does.result_ok.mpr (Or.inr rfl)⟩

/-- What it means that a run from `l` goes as commands that are queued for `c` settle it: its steps
do the next deed each, and when all of them are done the loop has been left. -/
structure Settled (c : Steered) (q : List Command) (l : RunLoop) (occasions : List Occasion) :
    Prop where
  history : l.history occasions = (c.deeds q).take (steps occasions)
  ended : (c.deeds q).length ≤ steps occasions →
    (l.along occasions).result? = some (c.outcome q) ∧
      (l.along occasions).scheduler.steered = c.follow (c.segment q)
  running : steps occasions < (c.deeds q).length → (l.along occasions).result? = none

namespace Settled

variable {c c' : Steered} {q q' : List Command} {deed : Deed} {now : Nat}
  {occasions : List Occasion}

/-- The only deed is done and ends the loop. -/
theorem of_ended (hdeed : l.deed? now = some deed) (hdeeds : c.deeds q = [deed])
    (hended : (l.step now).result? = some (c.outcome q))
    (hsteered : (l.step now).scheduler.steered = c.follow (c.segment q))
    (occasions : List Occasion) : Settled c q l (.step now :: occasions) := by
  have hlength : (c.deeds q).length ≤ steps (.step now :: occasions) := by
    rw [hdeeds, steps_step]
    exact Nat.succ_le_succ (Nat.zero_le _)
  obtain ⟨hhistory, hresult, hscheduler, -⟩ :=
    along_of_ended (by rw [hended]; rfl) occasions
  refine ⟨?_, fun _ => ⟨hresult.trans hended, ?_⟩, fun hlt => absurd hlength (by omega)⟩
  · rw [RunLoop.history, hdeed, hhistory, List.take_of_length_le hlength, hdeeds]
    rfl
  · exact (congrArg Scheduler.steered hscheduler).trans hsteered

/-- The first deed is done, and the others settle the rest of the run. -/
theorem of_running (hdeed : l.deed? now = some deed) (hdeeds : c.deeds q = deed :: c'.deeds q')
    (houtcome : c.outcome q = c'.outcome q')
    (hfollow : c.follow (c.segment q) = c'.follow (c'.segment q'))
    (h : Settled c' q' (l.step now) occasions) : Settled c q l (.step now :: occasions) := by
  refine ⟨?_, fun hle => ?_, fun hlt => ?_⟩
  · rw [RunLoop.history, hdeed, h.history, hdeeds, steps_step]
    rfl
  · rw [houtcome, hfollow]
    rw [hdeeds, steps_step] at hle
    exact h.ended (Nat.le_of_succ_le_succ hle)
  · rw [hdeeds, steps_step] at hlt
    exact h.running (Nat.lt_of_succ_lt_succ hlt)

end Settled

/-- The queue settles the run if it ends it, or if it is all that will ever come. -/
theorem settled_of_segment (hrun : l.result? = none) (occasions : List Occasion)
    (h : l.scheduler.steered.Ending (l.scheduler.steered.segment l.channel.queue) ∨
      l.channel.isOpen = false ∧ sent occasions = []) :
    Settled l.scheduler.steered l.channel.queue l occasions := by
  -- Every step does the first of the deeds that are left. What is sent in between lies behind a
  -- segment that ends the run, and so changes none of them.
  induction occasions generalizing l with
  | nil =>
    have hpos := l.scheduler.steered.length_deeds_pos l.channel.queue
    exact ⟨rfl, fun hle => absurd hpos (by simpa [steps] using hle), fun _ => hrun⟩
  | cons occasion occasions ih =>
    cases occasion with
    | send command =>
      rcases h with h | ⟨-, hsent⟩
      · obtain ⟨hsegment, hdeeds, houtcome⟩ := Steered.append_of_ending h [command]
        have hsettled := @ih (l.send command) hrun (Or.inl (by
          show l.scheduler.steered.Ending
            (l.scheduler.steered.segment (l.channel.queue ++ [command]))
          rw [hsegment]
          exact h))
        refine ⟨?_, ?_, ?_⟩
        · rw [← hdeeds]; exact hsettled.history
        · rw [← hdeeds, ← houtcome, ← hsegment]; exact hsettled.ended
        · rw [← hdeeds]; exact hsettled.running
      · exact absurd hsent (by simp [sent])
    | hangUp =>
      have hsettled := @ih l.hangUp hrun (h.imp_right fun ⟨_, hsent⟩ => ⟨rfl, hsent⟩)
      exact ⟨hsettled.history, hsettled.ended, hsettled.running⟩
    | step now =>
      rcases hq : l.channel.queue with _ | ⟨command, rest⟩
      · -- Nothing is queued, so nobody can send either.
        have hopen : l.channel.isOpen = false := by
          rcases h with ⟨result, hends⟩ | ⟨hopen, -⟩
          · rw [hq] at hends
            exact absurd hends Steered.not_endsIn_nil
          · exact hopen
        obtain ⟨hdeed, hdoes, hended⟩ := step_of_closed hrun hq hopen now
        refine .of_ended hdeed rfl ?_ ?_ occasions
        · exact hended
        · exact Steered.ext hdoes.machine hdoes.state
      · obtain ⟨hdeed, hdoes, hrest⟩ := step_of_queue hrun hq now
        obtain ⟨hsteered, hresult⟩ := hdoes.obeys
        rcases hending : l.scheduler.steered.ending? command with _ | result
        · rw [hending] at hresult
          rw [hq, Steered.ending_segment_cons hending, ← hdoes.isOpen, ← hsteered, ← hrest] at h
          refine .of_running hdeed ?_ ?_ ?_ (ih hresult h)
          · rw [Steered.deeds, hending, hsteered, hrest]
            rfl
          · rw [Steered.outcome, hending, hsteered, hrest]
            rfl
          · rw [Steered.segment, hending, hsteered, hrest]
            rfl
        · refine .of_ended hdeed ?_ ?_ ?_ occasions
          · rw [Steered.deeds, hending]
            rfl
          · rw [hresult, hending, Steered.outcome, hending]
            rfl
          · rw [Steered.segment, hending]
            exact hsteered

/-- What it means that a run is over that found the queue `q` and took the commands `p` from it. -/
structure Took (c : Steered) (p q : List Command) (l : RunLoop) (occasions : List Occasion) :
    Prop where
  handled : (l.history occasions).filterMap Deed.command? = p
  machine : (l.along occasions).scheduler.machine = (c.follow p).machine
  state : (l.along occasions).scheduler.state = (c.follow p).state
  result : ∃ result, (l.along occasions).result? = some result ∧ c.Yields p result
  queue : (l.along occasions).channel.queue = q.drop p.length ++ sent occasions

namespace Settled

variable {c : Steered} {q : List Command} {occasions : List Occasion}

theorem not_mem_history (h : Settled c q l occasions) :
    .tick ∉ l.history occasions ∧ .cadence ∉ l.history occasions := by
  rw [h.history]
  have hdeeds : .tick ∉ c.deeds q ∧ .cadence ∉ c.deeds q := by
    rcases c.segment_cases q with ⟨-, hdeeds⟩ | ⟨-, -, -, hdeeds⟩
    · simp [hdeeds]
    · simp [hdeeds]
  exact ⟨fun hmem => hdeeds.1 (List.mem_of_mem_take hmem),
    fun hmem => hdeeds.2 (List.mem_of_mem_take hmem)⟩

/-- One step for every command of the segment, and one to hang up, are enough. -/
theorem isSome_result (h : Settled c q l occasions)
    (hsteps : (c.segment q).length < steps occasions) : (l.along occasions).result?.isSome := by
  have hlength : (c.deeds q).length ≤ steps occasions := by
    rcases c.segment_cases q with ⟨-, hdeeds⟩ | ⟨-, hsegment, -, hdeeds⟩
    · rw [hdeeds, List.length_map]
      omega
    · rw [hsegment] at hsteps
      rw [hdeeds, List.length_append, List.length_map]
      exact hsteps
  rw [(h.ended hlength).1]
  rfl

theorem took (hrun : l.result? = none) (hq : l.channel.queue = q) (h : Settled c q l occasions)
    (hover : (l.along occasions).result?.isSome) : Took c (c.segment q) q l occasions := by
  have hlength : (c.deeds q).length ≤ steps occasions := by
    by_contra hlt
    rw [h.running (by omega)] at hover
    exact absurd hover (by simp)
  obtain ⟨hresult, hsteered⟩ := h.ended hlength
  have hhistory : l.history occasions = c.deeds q := by
    rw [h.history, List.take_of_length_le hlength]
  have hhandled : (l.history occasions).filterMap Deed.command? = c.segment q := by
    rw [hhistory]
    rcases c.segment_cases q with ⟨-, hdeeds⟩ | ⟨-, hsegment, -, hdeeds⟩
    · rw [hdeeds, filterMap_map_handle]
    · rw [hdeeds, List.filterMap_append, filterMap_map_handle, hsegment]
      exact List.append_nil q
  refine ⟨hhandled, congrArg Steered.machine hsteered, congrArg Steered.state hsteered,
    ⟨_, hresult, ?_⟩, ?_⟩
  · rcases c.segment_cases q with ⟨hends, -⟩ | ⟨hnot, -, houtcome, -⟩
    · exact Or.inl hends
    · exact Or.inr ⟨hnot, houtcome⟩
  · have hqueue := (serial_along hrun occasions).queue
    have hsplit : c.segment q ++ q.drop (c.segment q).length = q :=
      List.prefix_iff_eq_append.mp (c.segment_initial q)
    rw [hhandled, hq] at hqueue
    have hall : c.segment q ++ (l.along occasions).channel.queue =
        c.segment q ++ (q.drop (c.segment q).length ++ sent occasions) := by
      rw [hqueue, ← List.append_assoc, hsplit]
    exact List.append_cancel_left hall

end Settled

/-! ## Runs one after another -/

/-- A stay in the run loop: when it is entered, and what happens until it is entered again. -/
structure Stay where
  /-- When the loop is entered. -/
  entered : Nat
  /-- What happens. -/
  occasions : List Occasion

/-- The loop when it is entered for the `k`th time, counted from zero, on the same channel. -/
def entry (s : Scheduler) (channel : Channel Command) (stays : Nat → Stay) : Nat → RunLoop
  | 0 => .start s channel (stays 0).entered
  | k + 1 =>
    let l := (entry s channel stays k).along (stays k).occasions
    .start l.scheduler l.channel (stays (k + 1)).entered

theorem result?_entry (s : Scheduler) (channel : Channel Command) (stays : Nat → Stay) (k : Nat) :
    (entry s channel stays k).result? = none := by
  cases k <;> rfl

/-- The runs take consecutive segments of the queue. -/
theorem took_of_segments (s : Scheduler) (channel : Channel Command) (stays : Nat → Stay) (k : Nat)
    (h : ∀ i < k,
      let c := s.steered.follow (channel.queue.take (s.steered.consumed channel.queue i))
      let q := channel.queue.drop (s.steered.consumed channel.queue i)
      let l := entry s channel stays i
      sent (stays i).occasions = [] ∧ (c.Ending (c.segment q) ∨ l.channel.isOpen = false) ∧
        ((l.along (stays i).occasions).result?.isSome ∨
          (c.segment q).length < steps (stays i).occasions)) :
    ((entry s channel stays k).scheduler.steered =
        s.steered.follow (channel.queue.take (s.steered.consumed channel.queue k)) ∧
      (entry s channel stays k).channel.queue =
        channel.queue.drop (s.steered.consumed channel.queue k)) ∧
    ∀ i < k,
      let c := s.steered.follow (channel.queue.take (s.steered.consumed channel.queue i))
      let q := channel.queue.drop (s.steered.consumed channel.queue i)
      let l := entry s channel stays i
      Settled c q l (stays i).occasions ∧ Took c (c.segment q) q l (stays i).occasions := by
  -- A run finds what the runs before it have left, and leaves the rest to the next one.
  induction k with
  | zero => exact ⟨⟨rfl, rfl⟩, fun i hi => absurd hi (by omega)⟩
  | succ k ih =>
    obtain ⟨⟨hsteered, hqueue⟩, hbefore⟩ := ih fun i hi => h i (by omega)
    obtain ⟨hsent, hends, hover⟩ := h k (by omega)
    have hrun := result?_entry s channel stays k
    have hsettled := settled_of_segment hrun (stays k).occasions
    rw [hsteered, hqueue] at hsettled
    have hsettled := hsettled (hends.imp_right fun hopen => ⟨hopen, hsent⟩)
    have htook := hsettled.took hrun hqueue (hover.elim id hsettled.isSome_result)
    refine ⟨⟨?_, ?_⟩, fun i hi => ?_⟩
    · rw [Steered.take_consumed_succ, Steered.follow_append]
      exact Steered.ext htook.machine htook.state
    · rw [Steered.consumed, ← List.drop_drop]
      show ((entry s channel stays k).along (stays k).occasions).channel.queue = _
      rw [htook.queue, hsent, List.append_nil]
    · rcases Nat.lt_succ_iff_lt_or_eq.mp hi with hlt | rfl
      · exact hbefore i hlt
      · exact ⟨hsettled, htook⟩

end RunLoop

/-! ## Main statement -/

/-- Commands that are queued before the run loop is entered settle the run, and so every run of
several on the same queue.

Commands act one after another: a request to pause toggles the state, a request to step executes an
instruction when the state is paused, a request for keys replaces those that all later instructions
see. The segment of the queue `q` is its shortest initial part that ends a run, by a request to stop
or by a step that meets a word that is not an instruction, or all of `q` if there is none. If the
segment ends a run, or if the senders are gone, then a run services no deadline whatever the clock
says; it is over after one step for each command and one to hang up; it has handled the segment;
machine and state are those that the segment leads to; it ends the way the segment does; and the
rest of `q` is still queued, followed by what was sent meanwhile. Runs one after another take
consecutive segments. -/
theorem queued_commands_settle_runs :
    (∀ c : Steered, c.machine.random.Reliable → ∀ p : List Command,
      (c.follow p).machine.random.Reliable ∧
      (c.follow p).state = RunState.toggle^[p.count .pause] c.state ∧
      (c.follow p).machine.keys = (p.filterMap Command.mask?).getLastD c.machine.keys ∧
      ∀ result, c.EndsIn p result ↔
        (∃ before, p = before ++ [.close] ∧ result = .ok ()) ∨
        ∃ before word, p = before ++ [.step] ∧ (c.follow before).state = .paused ∧
          (c.follow before).machine.cycle =
            (.error (.unrecognised word), (c.follow before).machine) ∧
          result = .error (.unrecognised word)) ∧
    (∀ (c : Steered) (q : List Command), c.segment q <+: q ∧
      (∀ p, p <+: q → c.Ending p → c.segment q <+: p) ∧
      (c.Ending (c.segment q) ∨ c.segment q = q)) ∧
    (∀ (s : Scheduler) (q : List Command) (isOpen : Bool) (now : Nat) (occasions : List Occasion),
      let c := s.steered
      let l := RunLoop.start s ⟨q, isOpen⟩ now
      c.Ending (c.segment q) ∨ isOpen = false ∧ sent occasions = [] →
      .tick ∉ l.history occasions ∧ .cadence ∉ l.history occasions ∧
      ((c.segment q).length < steps occasions → (l.along occasions).result?.isSome) ∧
      ((l.along occasions).result?.isSome → RunLoop.Took c (c.segment q) q l occasions)) ∧
    ∀ (s : Scheduler) (q : List Command) (isOpen : Bool) (stays : Nat → RunLoop.Stay) (k : Nat),
      let n := s.steered.consumed q
      let c := fun i => s.steered.follow (q.take (n i))
      let p := fun i => (c i).segment (q.drop (n i))
      let l := RunLoop.entry s ⟨q, isOpen⟩ stays
      (∀ i < k, sent (stays i).occasions = [] ∧
        ((c i).Ending (p i) ∨ (l i).channel.isOpen = false) ∧
        (((l i).along (stays i).occasions).result?.isSome ∨
          (p i).length < steps (stays i).occasions)) →
      (l k).scheduler.machine = (c k).machine ∧ (l k).scheduler.state = (c k).state ∧
      (l k).channel.queue = q.drop (n k) ∧
      ∀ i < k, .tick ∉ (l i).history (stays i).occasions ∧
        .cadence ∉ (l i).history (stays i).occasions ∧
        RunLoop.Took (c i) (p i) (q.drop (n i)) (l i) (stays i).occasions := by
  refine ⟨?_, ?_, ?_, ?_⟩
  · intro c hr p
    exact ⟨Steered.reliable_follow hr p, c.state_follow p, c.keys_follow p,
      fun result => Steered.endsIn_iff hr⟩
  · intro c q
    refine ⟨c.segment_initial q, ?_, ?_⟩
    · intro p hp hends
      exact Steered.segment_shortest hp hends
    · exact (c.segment_cases q).imp (fun h => ⟨_, h.1⟩) fun h => h.2.1
  · intro s q isOpen now occasions c l hends
    have hsettled := RunLoop.settled_of_segment (l := l) rfl occasions hends
    obtain ⟨htick, hcadence⟩ := hsettled.not_mem_history
    exact ⟨htick, hcadence, hsettled.isSome_result, hsettled.took rfl rfl⟩
  · intro s q isOpen stays k n c p l h
    obtain ⟨⟨hsteered, hqueue⟩, hruns⟩ := RunLoop.took_of_segments s ⟨q, isOpen⟩ stays k h
    refine ⟨congrArg Steered.machine hsteered, congrArg Steered.state hsteered, hqueue, ?_⟩
    intro i hi
    obtain ⟨hsettled, htook⟩ := hruns i hi
    obtain ⟨htick, hcadence⟩ := hsettled.not_mem_history
    exact ⟨htick, hcadence, htook⟩

/-- A running scheduler whose machine can execute one instruction and then meets a word that is not
one. -/
def Scheduler.tripping : Scheduler :=
  .ofMachine (.ofProgram [0x60, 0x05, 0xFF, 0xFF] (.cyclic [])) (.ofRates 1000 60 false)
    (.fresh false)

/-- Commands for three runs: the first fails in its second step, the second is asked to stop, and the
third finds one command and then nothing. -/
def Command.backlog : List Command :=
  [.step, .pause, .setKeys 3, .step, .step, .close, .pause]

/-- Three long stays; all deadlines have passed, and the senders leave during the second one. -/
def RunLoop.Stay.late (k : Nat) : Stay where
  entered := k
  occasions := List.replicate 6 (.step second) ++ (if k = 1 then [.hangUp] else [])

/-- Three runs take the backlog in segments of five commands, one and one. -/
theorem queued_commands_settle_three_runs :
    let l := RunLoop.entry .tripping ⟨Command.backlog, true⟩ RunLoop.Stay.late
    (l 1).channel.queue = [.close, .pause] ∧ (l 2).channel.queue = [.pause] ∧
    (l 3).channel.queue = [] ∧
    (l 3).scheduler.machine = (Scheduler.tripping.steered.follow Command.backlog).machine ∧
    (l 3).scheduler.state = .running := by
  intro l
  obtain ⟨-, -, -, hruns⟩ := queued_commands_settle_runs
  have hstays : ∀ i < 3,
      let n := Scheduler.tripping.steered.consumed Command.backlog
      let c := Scheduler.tripping.steered.follow (Command.backlog.take (n i))
      let p := c.segment (Command.backlog.drop (n i))
      sent (RunLoop.Stay.late i).occasions = [] ∧ (c.Ending p ∨ (l i).channel.isOpen = false) ∧
        (((l i).along (RunLoop.Stay.late i).occasions).result?.isSome ∨
          p.length < steps (RunLoop.Stay.late i).occasions) := by
    intro i hi
    obtain rfl | rfl | rfl : i = 0 ∨ i = 1 ∨ i = 2 := by omega
    · have hfails : ((Scheduler.tripping.steered.follow [.step, .pause, .setKeys 3, .step]).ending?
          .step).isSome := by
        decide +kernel
      obtain ⟨result, hfails⟩ := Option.isSome_iff_exists.mp hfails
      refine ⟨rfl, Or.inl ⟨result, [.step, .pause, .setKeys 3, .step], .step, ?_, hfails⟩,
        Or.inr ?_⟩
      · decide +kernel
      · decide +kernel
    · refine ⟨rfl, Or.inl ⟨.ok (), [], .close, ?_, rfl⟩, Or.inr ?_⟩
      · decide +kernel
      · decide +kernel
    · exact ⟨rfl, Or.inr rfl, Or.inr (by decide +kernel)⟩
  have hrun := hruns .tripping Command.backlog true RunLoop.Stay.late
  obtain ⟨-, -, hfirst, -⟩ := hrun 1 fun i hi => hstays i (by omega)
  obtain ⟨-, -, hsecond, -⟩ := hrun 2 fun i hi => hstays i (by omega)
  obtain ⟨hmachine, hstate, hthird, -⟩ := hrun 3 hstays
  have hconsumed : Scheduler.tripping.steered.consumed Command.backlog 1 = 5 ∧
      Scheduler.tripping.steered.consumed Command.backlog 2 = 6 ∧
      Scheduler.tripping.steered.consumed Command.backlog 3 = 7 := by
    decide +kernel
  rw [hconsumed.1] at hfirst
  rw [hconsumed.2.1] at hsecond
  simp only [hconsumed.2.2] at hmachine hstate hthird
  exact ⟨hfirst, hsecond, hthird, hmachine, hstate⟩

end Chip8
