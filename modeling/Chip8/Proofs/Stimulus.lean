import Chip8.Proofs.Cycle

/-!
# Runs of a machine

From outside, a machine is made to execute an instruction, has its timers counted down, and gets to
know which keys are held. A run is any finite sequence of these stimuli, and properties of machines
over time are properties of all runs.
-/

namespace Chip8

/-- What can happen to a machine. -/
inductive Stimulus
  /-- The instruction at the program counter is executed. -/
  | cycle
  /-- The timers are counted down. -/
  | tick
  /-- The keys that are held become these. -/
  | keys (mask : KeyMask)
deriving DecidableEq, Repr

namespace Machine

/-- The machine after one stimulus. -/
def react (m : Machine) : Stimulus → Machine
  | .cycle => m.cycle.2
  | .tick => m.tick
  | .keys mask => m.setKeys mask

/-- The machine after a run. -/
def after (m : Machine) (run : List Stimulus) : Machine := run.foldl react m

/-- How the cycles of a run go, in order. -/
def results (m : Machine) : List Stimulus → List (Except Fault Executed)
  | [] => []
  | .cycle :: run => m.cycle.1 :: (m.react .cycle).results run
  | .tick :: run => (m.react .tick).results run
  | .keys mask :: run => (m.react (.keys mask)).results run

/-- The instructions that a run executes, in order; a cycle that fails executes none. -/
def trace (m : Machine) (run : List Stimulus) : List Executed :=
  (m.results run).filterMap Except.toOption

@[simp] theorem after_nil (m : Machine) : m.after [] = m := rfl

@[simp] theorem after_cons (m : Machine) (s : Stimulus) (run : List Stimulus) :
    m.after (s :: run) = (m.react s).after run := rfl

theorem after_append (m : Machine) (run run' : List Stimulus) :
    m.after (run ++ run') = (m.after run).after run' := List.foldl_append

theorem results_append (m : Machine) (run run' : List Stimulus) :
    m.results (run ++ run') = m.results run ++ (m.after run).results run' := by
  induction run generalizing m with
  | nil => rfl
  | cons s run ih =>
    cases s with
    | cycle => exact congrArg (m.cycle.1 :: ·) (ih _)
    | tick => exact ih _
    | keys mask => exact ih _

theorem react_cycle {m after : Machine} {result : Except Fault Executed}
    (h : m.cycle = (result, after)) : m.react .cycle = after := by
  rw [react, h]

/-- A cycle that executes an instruction adds it to the trace. -/
theorem trace_cons_of_ok {m after : Machine} {e : Executed} (h : m.cycle = (.ok e, after))
    (run : List Stimulus) : m.trace (.cycle :: run) = e :: after.trace run := by
  simp only [trace, results, react, h]
  rfl

/-- A cycle that fails adds nothing to the trace and changes nothing. -/
theorem trace_cons_of_error {m after : Machine} {fault : Fault} (h : m.cycle = (.error fault, after))
    (run : List Stimulus) : m.trace (.cycle :: run) = m.trace run ∧ m.react .cycle = m := by
  obtain rfl := cycle_error h
  simp only [trace, results, react, h]
  exact ⟨rfl, trivial⟩

/-- What holds of a machine and of the instructions it has executed so far, and is kept by every
instruction that is executed and by all other stimuli, holds after every run. Cycles that fail need
no attention. -/
theorem trace_induction {P : Machine → List Executed → Prop}
    (hcycle : ∀ m past e after, P m past → m.cycle = (.ok e, after) → P after (past ++ [e]))
    (htick : ∀ m past, P m past → P m.tick past)
    (hkeys : ∀ m past mask, P m past → P (m.setKeys mask) past)
    {m : Machine} {past : List Executed} (h : P m past) (run : List Stimulus) :
    P (m.after run) (past ++ m.trace run) := by
  induction run generalizing m past with
  | nil => simpa [trace, results] using h
  | cons s run ih =>
    cases s with
    | cycle =>
      rcases hc : m.cycle with ⟨fault | e, after⟩
      · obtain ⟨htrace, hreact⟩ := trace_cons_of_error hc run
        rw [htrace, after_cons, hreact]
        exact ih h
      · rw [trace_cons_of_ok hc, after_cons, react_cycle hc, List.append_cons]
        exact ih (hcycle m past e after h hc)
    | tick => exact ih (htick m past h)
    | keys mask => exact ih (hkeys m past mask h)

/-- With a random source that delivers every word the cycles of a run fail only on words that are
not instructions, and the source stays one that does. -/
theorem reliable_run {m : Machine} (hr : m.random.Reliable) (run : List Stimulus) :
    (m.after run).random.Reliable ∧ .error .randomFailed ∉ m.results run := by
  induction run generalizing m with
  | nil => exact ⟨hr, List.not_mem_nil⟩
  | cons s run ih =>
    cases s with
    | cycle =>
      obtain ⟨hr', hne⟩ := reliable_cycle hr
      obtain ⟨hafter, hres⟩ := ih hr'
      refine ⟨hafter, ?_⟩
      rw [results, List.mem_cons, not_or]
      exact ⟨hne.symm, hres⟩
    | tick => exact ih hr
    | keys mask => exact ih hr

end Machine

end Chip8
