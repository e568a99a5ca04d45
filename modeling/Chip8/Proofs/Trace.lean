import Chip8.Proofs.Atomicity
import Chip8.Proofs.Log
import Chip8.Proofs.RunLoop
import Chip8.Rom

/-!
# The trace of a run

A scheduler that records writes two lines for every instruction it executes: what was executed where,
and the registers afterwards. Since nothing but a cycle moves the program counter, each of these
entries begins where the one before it has ended, and so do the lines about halting and stopping. A
line is judged by what is read off the lines before it; what is said of the whole log then grows by one
line at a time.
-/

namespace Chip8

/-! ## What is logged of a cycle -/

namespace Machine

/-- The machines that the cycles of a run begin with, in order. -/
def cycling (m : Machine) : List Stimulus → List Machine
  | [] => []
  | .cycle :: run => m :: (m.react .cycle).cycling run
  | .tick :: run => (m.react .tick).cycling run
  | .keys mask :: run => (m.react (.keys mask)).cycling run

theorem cycling_append (m : Machine) (run run' : List Stimulus) :
    m.cycling (run ++ run') = m.cycling run ++ (m.after run).cycling run' := by
  induction run generalizing m with
  | nil => rfl
  | cons s run ih =>
    cases s with
    | cycle => exact congrArg (m :: ·) (ih _)
    | tick => exact ih _
    | keys mask => exact ih _

theorem results_eq_map_cycling (m : Machine) (run : List Stimulus) :
    m.results run = (m.cycling run).map fun begin => begin.cycle.1 := by
  induction run generalizing m with
  | nil => rfl
  | cons s run ih =>
    cases s with
    | cycle => exact congrArg (m.cycle.1 :: ·) (ih _)
    | tick => exact ih _
    | keys mask => exact ih _

/-- The lines of trace that are due for a cycle of the machine: two if it succeeds. The first one shows
the machine before the cycle, the second one its registers afterwards. -/
def traceLines (m : Machine) : List String :=
  match m.cycle with
  | (.ok _, after) =>
    [ "TRACE " ++ Numeral.hexCapital 4 m.pc.toNat ++ " [" ++ Numeral.hexCapital 4 m.fetch.toNat ++ "] " ++
        m.fetch.mnemonic,
      "TRACE " ++ after.dump.text ]
  | (.error _, _) => []

/-- The line about an error that is due for a cycle of the machine: one if the word it stands at is not
an instruction. -/
def haltLines (m : Machine) : List String :=
  match m.cycle.1 with
  | .error (.unrecognised _) =>
    [ "ERROR Halting at " ++ Numeral.hexCapital 4 m.pc.toNat ++ ": unrecognised opcode 0x" ++
        Numeral.hexCapital 4 m.fetch.toNat ]
  | .error .randomFailed | .ok _ => []

/-- The bytes in memory at the program counter as one word, the high byte first. -/
def wordAt (m : Machine) : Word :=
  .ofNat (256 * (m.memory.read m.pc).toNat + (m.memory.read (m.pc + 1)).toNat)

/-- What the lines of trace about a cycle show: that word at its address, and all registers afterwards. -/
def traced (m : Machine) : List Shown :=
  match m.cycle with
  | (.ok _, after) =>
    [ .executed m.pc m.wordAt,
      .registers ⟨after.pc, after.stack.pointer, after.index, after.timers, after.keys,
        after.registers⟩ ]
  | (.error _, _) => []

/-- What the line about an error of a cycle shows: that word at its address. -/
def haltedAt (m : Machine) : List Shown :=
  match m.cycle.1 with
  | .error (.unrecognised _) => [.halted m.pc m.wordAt]
  | .error .randomFailed | .ok _ => []

theorem wordAt_eq_fetch (m : Machine) : m.wordAt = m.fetch := by
  rw [wordAt, ← Word.toNat_ofBytes]
  exact UInt16.ofNat_toNat

/-- What is due for a cycle is read off its lines. -/
theorem ofLine?_traceLines (m : Machine) : m.traceLines.map Shown.ofLine? = m.traced.map some := by
  rw [traceLines, traced, wordAt_eq_fetch]
  rcases m.cycle with ⟨fault | executed, after⟩
  · rfl
  · simp only [List.map_cons, List.map_nil, ← Event.line_executed, Shown.ofLine?_executed]
    exact congrArg (fun shown => [_, shown]) (Shown.ofLine?_registers after.dump)

theorem ofLine?_haltLines (m : Machine) : m.haltLines.map Shown.ofLine? = m.haltedAt.map some := by
  rw [haltLines, haltedAt, wordAt_eq_fetch]
  rcases m.cycle.1 with (word | _) | executed
  · rw [List.map_singleton, ← Event.line_halted, Shown.ofLine?_halted]
    rfl
  · rfl
  · rfl

/-- There are two lines of trace for every instruction that a run executes. -/
theorem length_traceLines (m : Machine) (run : List Stimulus) :
    ((m.cycling run).flatMap traceLines).length = 2 * (m.trace run).length := by
  rw [trace, results_eq_map_cycling]
  induction m.cycling run with
  | nil => rfl
  | cons begin rest ih =>
    rw [List.flatMap_cons, List.length_append, ih, List.map_cons]
    rcases hc : begin.cycle with ⟨fault | executed, after⟩
    · have hlines : begin.traceLines = [] := by rw [traceLines, hc]
      have htrace : (Except.error fault : Except Fault Executed).toOption = none := rfl
      rw [hlines, List.filterMap_cons_none htrace, List.length_nil, Nat.zero_add]
    · have hlines : begin.traceLines.length = 2 := by rw [traceLines, hc]; rfl
      have htrace : (Except.ok executed : Except Fault Executed).toOption = some executed := rfl
      rw [hlines, List.filterMap_cons_some htrace, List.length_cons]
      omega

end Machine

/-! ## Chained lines -/

/-- The program counter in the last register dump, 0200 if there is none. -/
def shownPc (lines : List String) : UInt16 := (lines.filterMap lineDumped?).getLastD 0x200

/-- Wherever a line shows the address where the machine stands, it is the program counter of the last
register dump before. -/
def Chained (lines : List String) : Prop :=
  ∀ earlier line later, lines = earlier ++ line :: later →
    ∀ pc, lineAddress? line = some pc → pc = shownPc earlier

theorem shownPc_map_line (events : List Event) : shownPc (events.map Event.line) =
    (events.filterMap fun event => event.shown?.bind Shown.dumped?).getLastD 0x200 := by
  have hdumped : lineDumped? ∘ Event.line = fun event => event.shown?.bind Shown.dumped? :=
    funext lineDumped?_line
  rw [shownPc, List.filterMap_map, hdumped]

theorem shownPc_concat_of_none {line : String} (h : lineDumped? line = none) (lines : List String) :
    shownPc (lines ++ [line]) = shownPc lines := by
  rw [shownPc, List.filterMap_append, List.filterMap_cons_none h, List.filterMap_nil, List.append_nil,
    shownPc]

theorem shownPc_concat_of_some {line : String} {pc : UInt16} (h : lineDumped? line = some pc)
    (lines : List String) : shownPc (lines ++ [line]) = pc := by
  rw [shownPc, List.filterMap_append, List.filterMap_cons_some h]
  exact List.getLastD_concat

theorem chained_nil : Chained [] := by
  intro earlier line later h
  exact absurd h (by simp)

theorem Chained.concat {lines : List String} (h : Chained lines) {line : String}
    (hline : lineAddress? line = none ∨ lineAddress? line = some (shownPc lines)) :
    Chained (lines ++ [line]) := by
  intro earlier line' later hsplit
  rcases List.eq_nil_or_concat later with rfl | ⟨later, last, rfl⟩
  · obtain ⟨rfl, hlast⟩ := List.append_inj' hsplit rfl
    obtain rfl := (List.cons.inj hlast).1
    intro pc hpc
    rcases hline with hnone | hsome
    · exact absurd (hnone.symm.trans hpc) (by simp)
    · exact Option.some.inj (hpc.symm.trans hsome)
  · have hsplit' : lines ++ [line] = (earlier ++ line' :: later) ++ [last] := by
      simpa using hsplit
    obtain ⟨hlines, -⟩ := List.append_inj' hsplit' rfl
    exact h earlier line' later hlines

/-! ## Logs that tell a run -/

/-- What it means that the lines of a log tell the run of a machine. -/
structure Tells (m : Machine) (run : List Stimulus) (lines : List String) : Prop where
  /-- Every cycle that succeeds has its two lines of trace, and there are no others. -/
  trace : linesAt .trace lines = (m.cycling run).flatMap Machine.traceLines
  /-- Read back, they show the executed word at its address and the registers afterwards. -/
  traced : (linesAt .trace lines).map Shown.ofLine? = ((m.cycling run).flatMap Machine.traced).map some
  /-- Every cycle that meets a word which is not an instruction has its line. -/
  errors : linesAt .error lines = (m.cycling run).flatMap Machine.haltLines
  /-- Read back, it shows this word at its address. -/
  halted : (linesAt .error lines).map Shown.ofLine? =
    ((m.cycling run).flatMap Machine.haltedAt).map some
  /-- Every address is the program counter of the last dump. -/
  chained : Chained lines

theorem Tells.of_lines {m : Machine} {run : List Stimulus} {lines : List String}
    (htrace : linesAt .trace lines = (m.cycling run).flatMap Machine.traceLines)
    (herrors : linesAt .error lines = (m.cycling run).flatMap Machine.haltLines)
    (hchained : Chained lines) : Tells m run lines := by
  refine ⟨htrace, ?_, herrors, ?_, hchained⟩
  · rw [htrace, List.map_flatMap, List.map_flatMap]
    exact List.flatMap_congr fun begin _ => begin.ofLine?_traceLines
  · rw [herrors, List.map_flatMap, List.map_flatMap]
    exact List.flatMap_congr fun begin _ => begin.ofLine?_haltLines

namespace Scheduler

/-- What a deed makes of a scheduler. -/
def perform (s : Scheduler) : Deed → Scheduler
  | .handle command => (s.handle command).2
  | .tick => s.tick
  | .cadence => (s.stepWhen .running).2
  | .hangUp => s.note .hungUp

theorem state_perform (s : Scheduler) (deed : Deed) :
    (s.perform deed).state = deed.nextState s.state := by
  cases deed with
  | handle command => exact (s.handle_spec command).2.1
  | tick | hangUp => rfl
  | cadence => exact (s.stepWhen_spec .running).2.1

/-- What a history makes of a scheduler. -/
def performAll (s : Scheduler) (deeds : List Deed) : Scheduler := deeds.foldl perform s

theorem state_performAll (s : Scheduler) (deeds : List Deed) :
    (s.performAll deeds).state = deeds.foldl Deed.nextState s.state := by
  induction deeds generalizing s with
  | nil => rfl
  | cons deed deeds ih =>
    have hrest := ih (s.perform deed)
    rw [state_perform] at hrest
    exact hrest

/-- The scheduler of a loop that was left: it says where it stands, unless a fault has ended the loop. -/
def leave (s : Scheduler) : Option (Except Fault Unit) → Scheduler
  | some (.ok ()) => s.note (.stopped s.machine.pc)
  | some (.error _) | none => s

/-- What it means that a recording scheduler has come from the machine `m` by the run, and that its log
tells so. -/
structure Follows (m : Machine) (run : List Stimulus) (s : Scheduler) : Prop where
  recording : s.log.recording = true
  machine : s.machine = m.after run
  trace : linesAt .trace s.log.lines = (m.cycling run).flatMap Machine.traceLines
  errors : linesAt .error s.log.lines = (m.cycling run).flatMap Machine.haltLines
  chained : Chained s.log.lines
  shown : shownPc s.log.lines = s.machine.pc

namespace Follows

variable {m : Machine} {run : List Stimulus} {s : Scheduler}

theorem tells (h : Follows m run s) : Tells m run s.log.lines :=
  .of_lines h.trace h.errors h.chained

theorem fresh (hpc : m.pc = programStart) (profile : Profile) :
    Follows m [] (.ofMachine m profile (.fresh true)) :=
  ⟨rfl, rfl, rfl, rfl, chained_nil, hpc.symm⟩

/-- More stimuli and the lines about them come behind the ones before. -/
theorem append (h : Follows m run s) {s' : Scheduler} {stimuli : List Stimulus} {more : List String}
    (hrecording : s'.log.recording = true) (hmachine : s'.machine = s.machine.after stimuli)
    (hlines : s'.log.lines = s.log.lines ++ more)
    (htrace : linesAt .trace more = (s.machine.cycling stimuli).flatMap Machine.traceLines)
    (herrors : linesAt .error more = (s.machine.cycling stimuli).flatMap Machine.haltLines)
    (hchained : Chained (s.log.lines ++ more)) (hshown : shownPc (s.log.lines ++ more) = s'.machine.pc) :
    Follows m (run ++ stimuli) s' := by
  have hcycling : m.cycling (run ++ stimuli) = m.cycling run ++ s.machine.cycling stimuli := by
    rw [Machine.cycling_append, h.machine]
  refine ⟨hrecording, ?_, ?_, ?_, ?_, ?_⟩
  · rw [hmachine, Machine.after_append, h.machine]
  · rw [hlines, linesAt_append, h.trace, htrace, hcycling, List.flatMap_append]
  · rw [hlines, linesAt_append, h.errors, herrors, hcycling, List.flatMap_append]
  · rw [hlines]
    exact hchained
  · rw [hlines]
    exact hshown

/-- A line about one event keeps the chain if it shows the address where the machine stands, or none. -/
theorem chained_concat (h : Follows m run s) {event : Event}
    (haddress : event.shown?.bind Shown.address? = none ∨
      event.shown?.bind Shown.address? = some s.machine.pc) : Chained (s.log.lines ++ [event.line]) := by
  apply h.chained.concat
  rw [lineAddress?_line, h.shown]
  exact haddress

theorem shownPc_concat (h : Follows m run s) {event : Event}
    (hdumped : event.shown?.bind Shown.dumped? = none) :
    shownPc (s.log.lines ++ [event.line]) = s.machine.pc := by
  rw [shownPc_concat_of_none ((lineDumped?_line event).trans hdumped), h.shown]

/-- The log may say what is neither trace nor error, and where the machine stands. -/
theorem note (h : Follows m run s) {event : Event}
    (hlevel : event.level = .info ∨ event.level = .debug)
    (haddress : event.shown?.bind Shown.address? = none ∨
      event.shown?.bind Shown.address? = some s.machine.pc) :
    Follows m run (s.note event) := by
  have htrace : event.level ≠ .trace := by
    rcases hlevel with hlevel | hlevel <;> (rw [hlevel]; decide)
  have herror : event.level ≠ .error := by
    rcases hlevel with hlevel | hlevel <;> (rw [hlevel]; decide)
  have hdumped : event.shown?.bind Shown.dumped? = none := by
    cases event with
    | registers => exact absurd rfl htrace
    | _ => rfl
  have happend : Follows m (run ++ []) (s.note event) := by
    refine h.append ?_ rfl (Log.lines_add h.recording event) ?_ ?_ ?_ ?_
    · exact (s.log.recording_add event).trans h.recording
    · exact linesAt_line_of_ne htrace
    · exact linesAt_line_of_ne herror
    · exact h.chained_concat haddress
    · exact h.shownPc_concat hdumped
  rwa [List.append_nil] at happend

theorem withState (h : Follows m run s) (state : RunState) :
    Follows m run { s with state := state } :=
  ⟨h.recording, h.machine, h.trace, h.errors, h.chained, h.shown⟩

/-- Timer ticks and keys leave the program counter and the log alone. -/
theorem react (h : Follows m run s) {stimulus : Stimulus} (hcycle : stimulus ≠ .cycle) :
    Follows m (run ++ [stimulus]) { s with machine := s.machine.react stimulus } := by
  have hcycling : s.machine.cycling [stimulus] = [] := by
    cases stimulus with
    | cycle => exact absurd rfl hcycle
    | tick | keys => rfl
  have hpc : (s.machine.react stimulus).pc = s.machine.pc := by
    cases stimulus with
    | cycle => exact absurd rfl hcycle
    | tick | keys => rfl
  refine h.append h.recording rfl (List.append_nil _).symm ?_ ?_ ?_ ?_
  · rw [hcycling]
    rfl
  · rw [hcycling]
    rfl
  · rw [List.append_nil]
    exact h.chained
  · rw [List.append_nil]
    exact h.shown.trans hpc.symm

/-- Executing an instruction adds the lines that are due for it. -/
theorem step (h : Follows m run s) : Follows m (run ++ [.cycle]) s.step.2 := by
  have hcycling (due : Machine → List String) :
      (s.machine.cycling [.cycle]).flatMap due = due s.machine := List.append_nil _
  rcases hc : s.machine.cycle with ⟨fault | executed, after⟩
  · obtain rfl := Machine.cycle_error hc
    have hafter : s.machine = s.machine.after [.cycle] := (congrArg Prod.snd hc).symm
    cases fault with
    | unrecognised word =>
      -- The machine has not moved, so the last dump still shows where it stands.
      obtain rfl := Machine.cycle_unrecognised hc
      have hstep : s.step.2 = s.note (.halted s.machine.pc s.machine.fetch) := by
        rw [Scheduler.step, hc]
      rw [hstep]
      refine h.append ?_ hafter (Log.lines_add h.recording _) ?_ ?_ ?_ ?_
      · exact (s.log.recording_add _).trans h.recording
      · rw [hcycling, Machine.traceLines, hc]
        exact linesAt_line_of_ne (by simp [Event.level])
      · rw [hcycling, Machine.haltLines, hc, ← Event.line_halted]
        exact linesAt_line_of_eq rfl
      · exact h.chained_concat (Or.inr rfl)
      · exact h.shownPc_concat rfl
    | randomFailed =>
      have hstep : s.step.2 = s := by rw [Scheduler.step, hc]
      rw [hstep]
      refine h.append h.recording hafter (List.append_nil _).symm ?_ ?_ ?_ ?_
      · rw [hcycling, Machine.traceLines, hc]
        rfl
      · rw [hcycling, Machine.haltLines, hc]
        rfl
      · rw [List.append_nil]
        exact h.chained
      · rw [List.append_nil]
        exact h.shown
  · obtain ⟨rfl, -⟩ := Machine.cycle_ok hc
    have hafter : after = s.machine.after [.cycle] := (congrArg Prod.snd hc).symm
    have hstep : s.step.2 = ({ s with machine := after }.note
        (.executed ⟨s.machine.pc, s.machine.fetch⟩)).note (.registers after.dump) := by
      rw [Scheduler.step, hc]
    have hrecording : (s.log.add (.executed ⟨s.machine.pc, s.machine.fetch⟩)).recording = true :=
      (s.log.recording_add _).trans h.recording
    have hlines : s.step.2.log.lines = s.log.lines ++
        ([(Event.executed ⟨s.machine.pc, s.machine.fetch⟩).line] ++
          [(Event.registers after.dump).line]) := by
      rw [hstep, ← List.append_assoc]
      exact (Log.lines_add hrecording _).trans
        (congrArg (· ++ _) (Log.lines_add h.recording _))
    -- The address is judged against the log before it, which ends with an older dump.
    refine h.append ?_ ?_ hlines ?_ ?_ ?_ ?_
    · rw [hstep]
      exact (Log.recording_add _ _).trans hrecording
    · rw [hstep]
      exact hafter
    · have hexecuted : linesAt .trace [(Event.executed ⟨s.machine.pc, s.machine.fetch⟩).line] =
          [(Event.executed ⟨s.machine.pc, s.machine.fetch⟩).line] := linesAt_line_of_eq rfl
      have hregisters : linesAt .trace [(Event.registers after.dump).line] =
          [(Event.registers after.dump).line] := linesAt_line_of_eq rfl
      rw [hcycling, Machine.traceLines, hc, ← Event.line_executed, linesAt_append, hexecuted, hregisters]
      rfl
    · rw [hcycling, Machine.haltLines, hc, linesAt_append, linesAt_line_of_ne (by simp [Event.level]),
        linesAt_line_of_ne (by simp [Event.level])]
      rfl
    · rw [← List.append_assoc]
      refine (h.chained_concat (Or.inr rfl)).concat (Or.inl ?_)
      rw [lineAddress?_line]
      rfl
    · rw [← List.append_assoc, shownPc_concat_of_some (lineDumped?_line (.registers after.dump)), hstep]
      rfl

theorem stepWhen (h : Follows m run s) (state : RunState) :
    Follows m (run ++ if s.state = state then [.cycle] else []) (s.stepWhen state).2 := by
  rw [Scheduler.stepWhen]
  split
  · exact h.step
  · rwa [List.append_nil]

theorem handle (h : Follows m run s) (command : Command) :
    Follows m (run ++ (Deed.handle command).stimuli s.state) (s.handle command).2 := by
  have hreceived : Follows m run (s.note (.received command)) := h.note (Or.inr rfl) (Or.inl rfl)
  cases command with
  | pause =>
    rw [Deed.stimuli, List.append_nil]
    exact (hreceived.withState s.state.toggle).note (Or.inr rfl) (Or.inl rfl)
  | step =>
    have hstepped := hreceived.stepWhen .paused
    rw [Scheduler.handle]
    rcases hs : (s.note (.received .step)).stepWhen .paused with ⟨fault | done, after⟩ <;>
      (rw [hs] at hstepped; exact hstepped)
  | setKeys mask => exact hreceived.react (by simp)
  | close =>
    rw [Deed.stimuli, List.append_nil]
    exact hreceived

theorem perform (h : Follows m run s) (deed : Deed) :
    Follows m (run ++ deed.stimuli s.state) (s.perform deed) := by
  cases deed with
  | handle command => exact h.handle command
  | tick => exact h.react (by simp)
  | cadence => exact h.stepWhen .running
  | hangUp =>
    rw [Deed.stimuli, List.append_nil]
    exact h.note (Or.inr rfl) (Or.inl rfl)

theorem performAll (h : Follows m run s) (deeds : List Deed) :
    Follows m (run ++ serialise s.state deeds) (s.performAll deeds) := by
  induction deeds generalizing run s with
  | nil =>
    rw [serialise, List.append_nil]
    exact h
  | cons deed deeds ih =>
    have hrest := ih (h.perform deed)
    rw [state_perform] at hrest
    rw [serialise, ← List.append_assoc]
    exact hrest

theorem leave (h : Follows m run s) (result : Option (Except Fault Unit)) :
    Follows m run (s.leave result) := by
  rcases result with _ | fault | done
  · exact h
  · exact h
  · exact h.note (Or.inl rfl) (Or.inr rfl)

/-- A loop that was left without a fault has a last line, which shows the last dump's program counter. -/
theorem getLast?_lines_leave (h : Follows m run s) :
    (s.leave (some (.ok ()))).log.lines.getLast? =
      some (Event.stopped (shownPc (s.leave (some (.ok ()))).log.lines)).line := by
  have hlines : (s.leave (some (.ok ()))).log.lines =
      s.log.lines ++ [(Event.stopped s.machine.pc).line] := Log.lines_add h.recording _
  have hshown : shownPc (s.leave (some (.ok ()))).log.lines = s.machine.pc := (h.leave _).shown
  rw [hshown, hlines]
  exact List.getLast?_concat

end Follows

end Scheduler

/-! ## Logs of the run loop -/

namespace RunLoop

/-- A step of the loop performs its deed, and says so if that is the end. -/
theorem Step.scheduler {l l' : RunLoop} {now : Nat} {deed : Deed} (h : Step l now (some deed) l') :
    l'.scheduler = (l.scheduler.perform deed).leave l'.result? := by
  cases h with
  | serve hq =>
    rw [Scheduler.perform, RunLoop.serve]
    rcases l.scheduler.handle _ with ⟨fault | (_ | _), after⟩ <;> rfl
  | disconnect => rfl
  | tick => rfl
  | cadence =>
    rw [Scheduler.perform, fireCycles]
    rcases l.scheduler.stepWhen .running with ⟨fault | done, after⟩ <;> rfl

/-- What the loop makes of its scheduler is what its history makes of it. -/
theorem scheduler_along {l : RunLoop} (hrun : l.result? = none) (occasions : List Occasion) :
    (l.along occasions).scheduler =
      (l.scheduler.performAll (l.history occasions)).leave (l.along occasions).result? := by
  induction occasions generalizing l with
  | nil =>
    show l.scheduler = l.scheduler.leave l.result?
    rw [hrun]
    rfl
  | cons occasion occasions ih =>
    cases occasion with
    | send command => exact @ih (l.send command) hrun
    | hangUp => exact @ih l.hangUp hrun
    | step now =>
      have hstep := step_spec hrun now
      show ((l.step now).along occasions).scheduler =
        (l.scheduler.performAll ((l.deed? now).toList ++ (l.step now).history occasions)).leave
          ((l.step now).along occasions).result?
      generalize l.deed? now = deed, l.step now = l₁ at hstep ⊢
      cases deed with
      | none =>
        cases hstep with
        | rest hq hopen ht hphase => exact ih hphase
      | some deed =>
        rcases hres : l₁.result? with _ | result
        · have hscheduler := hstep.scheduler
          rw [hres] at hscheduler
          rw [ih hres, hscheduler]
          rfl
        · -- The loop was left, so nothing happens to the scheduler any more.
          obtain ⟨hhistory, hresult, hscheduler, -⟩ :=
            along_of_ended (by rw [hres]; rfl : l₁.result?.isSome) occasions
          rw [hhistory, hresult, hscheduler, hstep.scheduler]
          rfl

end RunLoop

/-! ## Main statement -/

/-- The trace of a scheduler that was made from a freshly loaded machine, after every history: each
cycle that succeeds has two lines of trace, the first one with the address, the word in memory and its
mnemonic as they were before the cycle, the second one with the registers after it, and nothing else is
traced; each cycle that meets a word which is not an instruction has its line of error; all of this is
read off the lines; and wherever a line shows an address, it is the program counter that was read off the
last dump before, or 0200. The same holds of the run loop, on every channel, schedule and clock, and when
the loop is left without a fault, the last line says that it has stopped at the program counter of the
last dump. -/
theorem trace_follows_machine {stream : List ReadOutcome} {random : RandomSource} {m : Machine}
    (hload : Machine.load stream random = .ok m) (profile : Profile) (before : List Deed) :
    let s := Scheduler.ofMachine m profile (.fresh true)
    let run := serialise s.state before
    Tells m run (s.performAll before).log.lines ∧
    (linesAt .trace (s.performAll before).log.lines).length = 2 * (m.trace run).length ∧
    ∀ (channel : Channel Command) (now₀ : Nat) (occasions : List Occasion),
      let l := (RunLoop.start (s.performAll before) channel now₀).along occasions
      let deeds := (RunLoop.start (s.performAll before) channel now₀).history occasions
      Tells m (serialise s.state (before ++ deeds)) l.scheduler.log.lines ∧
      (l.result? = some (.ok ()) →
        l.scheduler.log.lines.getLast? = some ("INFO Scheduler stopped [pc: " ++
          Numeral.hexCapital 4 (shownPc l.scheduler.log.lines).toNat ++ "]") ∧
        l.scheduler.log.lines.getLast?.bind Shown.ofLine? =
          some (.stopped (shownPc l.scheduler.log.lines))) := by
  intro s run
  have hpc : m.pc = programStart := by
    obtain ⟨program, rfl⟩ := Machine.exists_program_of_load hload
    rfl
  have hbefore : (s.performAll before).Follows m run :=
    (Scheduler.Follows.fresh hpc profile).performAll before
  refine ⟨hbefore.tells, ?_, ?_⟩
  · rw [hbefore.trace, Machine.length_traceLines]
  · intro channel now₀ occasions l deeds
    have hstarted : (RunLoop.start (s.performAll before) channel now₀).scheduler.Follows m run :=
      hbefore.note (Or.inl rfl) (Or.inl rfl)
    have hstate : (s.performAll before).state = before.foldl Deed.nextState s.state :=
      s.state_performAll before
    have hscheduler : l.scheduler =
        ((RunLoop.start (s.performAll before) channel now₀).scheduler.performAll deeds).leave
          l.result? := RunLoop.scheduler_along rfl occasions
    have hl : l.scheduler.Follows m (serialise s.state (before ++ deeds)) := by
      rw [hscheduler, serialise_append, ← hstate]
      exact (hstarted.performAll deeds).leave _
    refine ⟨hl.tells, fun hresult => ?_⟩
    rw [hresult] at hscheduler
    rw [hscheduler, (hstarted.performAll deeds).getLast?_lines_leave, Option.bind_some,
      Shown.ofLine?_stopped, Event.line_stopped]
    exact ⟨rfl, rfl⟩

/-- A program that points at its second instruction and then overwrites it. -/
def Machine.overwriting : Machine := .ofProgram [0xA2, 0x02, 0xF0, 0x55] .broken

/-- A request to step, one that is ignored, a tick and an instruction at its deadline. -/
def Deed.excursion : List Deed :=
  [.handle .step, .handle .pause, .handle .step, .tick, .cadence]

/-- The instruction that overwrites itself is traced as it was, and the loop stops behind it. -/
theorem trace_follows_machine_that_overwrites_itself :
    let s := Scheduler.ofMachine .overwriting (.ofRates 1000 60 true) (.fresh true)
    let l := (RunLoop.start (s.performAll Deed.excursion) .fresh 0).along [.send .close, .step 0]
    Machine.load [.chunk [0xA2, 0x02, 0xF0, 0x55]] .broken = .ok .overwriting ∧
    (linesAt .trace (s.performAll Deed.excursion).log.lines).length = 4 ∧
    (linesAt .trace (s.performAll Deed.excursion).log.lines)[2]? =
      some "TRACE 0202 [F055] LD [I], V0" ∧
    (s.performAll Deed.excursion).machine.memory.read 0x202 = 0x00 ∧
    l.scheduler.log.lines.getLast? = some "INFO Scheduler stopped [pc: 0204]" := by
  intro s l
  have hload : Machine.load [.chunk [0xA2, 0x02, 0xF0, 0x55]] .broken = .ok .overwriting := rfl
  obtain ⟨htells, hlength, hloop⟩ :=
    trace_follows_machine hload (.ofRates 1000 60 true) Deed.excursion
  refine ⟨hload, ?_, ?_, ?_, ?_⟩
  · rw [hlength]
    decide +kernel
  · rw [htells.trace]
    decide +kernel
  · decide +kernel
  · obtain ⟨-, hstopped⟩ := hloop .fresh 0 [.send .close, .step 0]
    have hresult : l.result? = some (.ok ()) := rfl
    have hshown : shownPc l.scheduler.log.lines = 0x204 := by
      rw [Log.lines, shownPc_map_line]
      decide +kernel
    rw [(hstopped hresult).1, hshown]
    decide +kernel

end Chip8
