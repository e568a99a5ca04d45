import Chip8.Proofs.QueuedCommands
import Chip8.Proofs.Session.History

/-!
# Fair sessions end

A schedule is fair when every thread takes a turn again and again. Then the session comes to its end:
the controller runs out of lines, the front end passes on what it has got and with it a request to
stop, the scheduler works through its queue and stops, and the front end finds that it has stopped.
In each of these four phases one thread comes closer to its goal with every turn, and no other thread
can take it back.
-/

namespace Chip8

/-- How many turns the front end is away from passing something on. -/
def Stage.untilForwarding : Stage → Nat
  | .checking => 2
  | .painting => 1
  | .forwarding | .finished | .abandoned _ => 0

/-- How many turns the front end is away from its end, when it has nothing to pass on and the
scheduler has stopped. -/
def Stage.untilFinished : Stage → Nat
  | .painting => 3
  | .forwarding => 2
  | .checking => 1
  | .finished | .abandoned _ => 0

namespace Session

/-- Every thread takes a turn again and again. -/
structure Fair (turns : Nat → Turn) : Prop where
  controller : ∀ n, ∃ k, n ≤ k ∧ turns k = .controller
  front : ∀ n, ∃ k, n ≤ k ∧ turns k = .front
  scheduler : ∀ n, ∃ k now, n ≤ k ∧ turns k = .scheduler now

/-- The session after the first turns of an endless schedule. -/
def playFirst (s : Session) (turns : Nat → Turn) (n : Nat) : Session :=
  s.play ((List.range n).map turns)

theorem playFirst_succ (s : Session) (turns : Nat → Turn) (n : Nat) :
    s.playFirst turns (n + 1) = (s.playFirst turns n).step (turns n) := by
  rw [playFirst, List.range_succ, List.map_append]
  exact s.play_append_singleton _ (turns n)

/-! ## Progress -/

/-- What it means that certain turns bring a session closer to a goal and the others do not take it
farther away, while the invariant holds. -/
structure Progress (Inv Goal : Session → Prop) (distance : Session → Nat) (Helps : Turn → Prop) :
    Prop where
  inv : ∀ s turn, Inv s → Inv (s.step turn)
  helps : ∀ s turn, Helps turn → Inv s → ¬Goal s →
    Goal (s.step turn) ∨ distance (s.step turn) < distance s
  others : ∀ s turn, ¬Helps turn → Inv s → distance (s.step turn) ≤ distance s

namespace Progress

variable {Inv Goal : Session → Prop} {distance : Session → Nat} {Helps : Turn → Prop}
  {s : Session} {turns : Nat → Turn} {n : Nat}

theorem inv_add (h : Progress Inv Goal distance Helps) (hinv : Inv (s.playFirst turns n)) (k : Nat) :
    Inv (s.playFirst turns (n + k)) := by
  induction k with
  | zero => exact hinv
  | succ k ih =>
    rw [← Nat.add_assoc, playFirst_succ]
    exact h.inv _ _ ih

/-- Up to a turn that helps, either the goal is reached or the distance has not grown. -/
theorem le_add (h : Progress Inv Goal distance Helps) (hinv : Inv (s.playFirst turns n)) (k : Nat) :
    (∃ j, n ≤ j ∧ Goal (s.playFirst turns j)) ∨
      distance (s.playFirst turns (n + k)) ≤ distance (s.playFirst turns n) := by
  induction k with
  | zero => exact Or.inr (Nat.le_refl _)
  | succ k ih =>
    rcases ih with hgoal | hle
    · exact Or.inl hgoal
    by_cases hgoal : Goal (s.playFirst turns (n + k))
    · exact Or.inl ⟨n + k, Nat.le_add_right n k, hgoal⟩
    rw [← Nat.add_assoc, playFirst_succ]
    have hinv' := h.inv_add hinv k
    by_cases hhelps : Helps (turns (n + k))
    · rcases h.helps _ _ hhelps hinv' hgoal with hnext | hlt
      · refine Or.inl ⟨n + k + 1, by omega, ?_⟩
        rw [playFirst_succ]
        exact hnext
      · exact Or.inr (by omega)
    · have hnext := h.others _ _ hhelps hinv'
      exact Or.inr (by omega)

/-- When turns that help come again and again, the goal is reached. -/
theorem eventually (h : Progress Inv Goal distance Helps)
    (hagain : ∀ n, ∃ k, n ≤ k ∧ Helps (turns k)) (hinv : Inv (s.playFirst turns n)) :
    ∃ k, n ≤ k ∧ Inv (s.playFirst turns k) ∧ Goal (s.playFirst turns k) := by
  -- By induction on the distance; every turn that helps makes it smaller.
  induction hd : distance (s.playFirst turns n) using Nat.strongRecOn generalizing n with
  | ind d ih =>
    suffices hreach : ∃ j, n ≤ j ∧ Goal (s.playFirst turns j) by
      obtain ⟨j, hj, hgoal⟩ := hreach
      obtain ⟨i, rfl⟩ := Nat.exists_eq_add_of_le hj
      exact ⟨n + i, hj, h.inv_add hinv i, hgoal⟩
    obtain ⟨k, hk, hhelps⟩ := hagain n
    obtain ⟨i, rfl⟩ := Nat.exists_eq_add_of_le hk
    rcases h.le_add hinv i with hreach | hle
    · exact hreach
    by_cases hgoal : Goal (s.playFirst turns (n + i))
    · exact ⟨n + i, hk, hgoal⟩
    rcases h.helps _ _ hhelps (h.inv_add hinv i) hgoal with hnext | hlt
    · refine ⟨n + i + 1, by omega, ?_⟩
      rw [playFirst_succ]
      exact hnext
    · rw [← playFirst_succ, Nat.add_assoc] at hlt
      obtain ⟨j, hj, -, hreach⟩ := ih _ (by omega) (h.inv_add hinv (i + 1)) rfl
      exact ⟨j, by omega, hreach⟩

end Progress

/-! ## The four phases -/

variable {m : Machine} {initial : RunState} {commands : List Command} {s : Session}

/-- What holds all the time: the session has a record. -/
def Reached (m : Machine) (initial : RunState) (commands : List Command) (s : Session) : Prop :=
  ∃ past, Records m initial (commands ++ [.close]) past s

theorem Reached.step (h : Reached m initial commands s) (turn : Turn) :
    Reached m initial commands (s.step turn) := by
  obtain ⟨past, h⟩ := h
  exact ⟨_, h.play [turn]⟩

theorem Reached.healthy (h : Reached m initial commands s) : Healthy s := by
  obtain ⟨past, h⟩ := h
  exact h.healthy

/-- When nothing is passed on any more, the request to stop is in the queue. -/
theorem Reached.queue_ne_nil (h : Reached m initial commands s) (hrun : s.loop.result? = none)
    (hdeaf : s.listening = false) : s.loop.channel.queue ≠ [] := by
  obtain ⟨past, h⟩ := h
  intro hq
  have hpending := h.pending hrun
  rw [pending, awaited, hdeaf, hq] at hpending
  have hclose : .close ∈ past.filterMap Deed.command? := by
    simp only [Bool.false_eq_true, if_false, List.append_nil] at hpending
    rw [hpending]
    exact List.mem_append_right _ List.mem_cons_self
  exact (h.quiet hrun).close (handle_mem_iff.mpr hclose)

section Deliver

variable (s : Session) (command : Command)

@[simp] theorem unread_deliver : (s.deliver command).unread = s.unread := by
  rw [deliver]
  split <;> rfl

@[simp] theorem controls_deliver : (s.deliver command).controls = s.controls := by
  rw [deliver]
  split <;> rfl

@[simp] theorem listening_deliver : (s.deliver command).listening = s.listening := by
  rw [deliver]
  split <;> rfl

@[simp] theorem stage_deliver : (s.deliver command).stage = s.stage := by
  rw [deliver]
  split <;> rfl

end Deliver

theorem step_controller (hopen : s.controls.isOpen = false) : s.step .controller = s := by
  rw [step, readLine, hopen]
  rfl

/-- What no turn of the front end changes or takes back. -/
theorem advanceFront_spec (h : Healthy s) :
    s.advanceFront.unread = s.unread ∧ s.advanceFront.controls.isOpen = s.controls.isOpen ∧
      (s.listening = false ∨ s.stage = .finished →
        (s.advanceFront.listening = false ∨ s.advanceFront.stage = .finished) ∧
        s.advanceFront.loop.channel.queue = s.loop.channel.queue) := by
  have hturn := frontTurn h.fault h.stage
  generalize s.advanceFront = s' at hturn ⊢
  cases hturn with
  | paints hstage =>
    refine ⟨rfl, rfl, fun hdeaf => ⟨?_, rfl⟩⟩
    simpa [hstage] using hdeaf
  | passes hstage hlistening hq =>
    refine ⟨by simp, by simp, fun hdeaf => ?_⟩
    simp [hstage, hlistening] at hdeaf
  | hangsUp hstage hlistening hq hopen =>
    refine ⟨by simp [note], by simp [note], fun hdeaf => ?_⟩
    simp [hstage, hlistening] at hdeaf
  | leaves hstage hq =>
    refine ⟨rfl, rfl, fun hdeaf => ⟨?_, rfl⟩⟩
    simpa [hstage] using hdeaf
  | resumes hstage hrun =>
    refine ⟨rfl, rfl, fun hdeaf => ⟨?_, rfl⟩⟩
    simpa [hstage] using hdeaf
  | finishes hstage hended => exact ⟨rfl, rfl, fun _ => ⟨Or.inr rfl, rfl⟩⟩
  | rests hstage => exact ⟨rfl, rfl, fun hdeaf => ⟨hdeaf, rfl⟩⟩

/-- The controller runs out of lines. -/
theorem progress_reading : Progress (Reached m initial commands)
    (fun s => s.controls.isOpen = false) (fun s => s.unread.length) (· = .controller) where
  inv _ turn h := h.step turn
  helps := by
    rintro s _ rfl h hopen
    have hturn := s.controllerTurn
    show s.readLine.controls.isOpen = false ∨ s.readLine.unread.length < s.unread.length
    generalize s.readLine = s' at hturn ⊢
    cases hturn with
    | closed hclosed => exact absurd hclosed hopen
    | ends => exact Or.inl rfl
    | skips _ hunread => exact Or.inr (by simp [hunread])
    | sends _ hunread => exact Or.inr (by simp [hunread])
  others := by
    intro s turn hother h
    cases turn with
    | controller => exact absurd rfl hother
    | front => exact Nat.le_of_eq (congrArg List.length (advanceFront_spec h.healthy).1)
    | scheduler now => exact Nat.le_refl _

/-- When the controller has gone, it stays away. -/
theorem isOpen_step (h : Healthy s) (hopen : s.controls.isOpen = false) (turn : Turn) :
    (s.step turn).controls.isOpen = false := by
  cases turn with
  | controller =>
    rw [step_controller hopen]
    exact hopen
  | front =>
    rw [Session.step, (advanceFront_spec h).2.1]
    exact hopen
  | scheduler now => exact hopen

/-- The front end passes on what it has got, and then the request to stop. -/
theorem progress_forwarding : Progress
    (fun s => Reached m initial commands s ∧ s.controls.isOpen = false)
    (fun s => s.listening = false ∨ s.stage = .finished)
    (fun s => s.controls.queue.length + s.stage.untilForwarding) (· = .front) where
  inv s turn := fun ⟨h, hopen⟩ => ⟨h.step turn, isOpen_step h.healthy hopen turn⟩
  helps := by
    rintro s _ rfl ⟨h, hopen⟩ hgoal
    have hturn := frontTurn h.healthy.fault h.healthy.stage
    show (s.advanceFront.listening = false ∨ s.advanceFront.stage = .finished) ∨ _
    rw [Session.step]
    generalize s.advanceFront = s' at hturn ⊢
    cases hturn with
    | paints hstage => exact Or.inr (by simp [hstage, Stage.untilForwarding])
    | passes hstage hlistening hq => exact Or.inr (by simp [hstage, hq])
    | hangsUp hstage hlistening hq hopen => exact Or.inl (Or.inl (by simp [note]))
    | leaves hstage hq =>
      rw [not_or] at hgoal
      rw [(hq (by simpa using hgoal.1)).2] at hopen
      exact absurd hopen (by decide)
    | resumes hstage hrun => exact Or.inr (by simp [hstage, Stage.untilForwarding])
    | finishes hstage hended => exact Or.inl (Or.inr rfl)
    | rests hstage => exact Or.inl (Or.inr hstage)
  others := by
    rintro s turn hother ⟨h, hopen⟩
    cases turn with
    | controller =>
      simp only [step_controller hopen, Nat.le_refl]
    | front => exact absurd rfl hother
    | scheduler now => exact Nat.le_refl _

/-- What the front end does not pass on any more it does not pass on later. -/
theorem deaf_step (h : Healthy s) (hopen : s.controls.isOpen = false)
    (hdeaf : s.listening = false ∨ s.stage = .finished) (turn : Turn) :
    (s.step turn).listening = false ∨ (s.step turn).stage = .finished := by
  cases turn with
  | controller =>
    rw [step_controller hopen]
    exact hdeaf
  | front => exact ((advanceFront_spec h).2.2 hdeaf).1
  | scheduler now => exact hdeaf

/-- The scheduler works through its queue, at the end of which there is the request to stop. -/
theorem progress_handling : Progress
    (fun s => Reached m initial commands s ∧ s.controls.isOpen = false ∧
      (s.listening = false ∨ s.stage = .finished))
    (fun s => s.loop.result?.isSome) (fun s => s.loop.channel.queue.length)
    (fun turn => ∃ now, turn = .scheduler now) where
  inv s turn := fun ⟨h, hopen, hdeaf⟩ =>
    ⟨h.step turn, isOpen_step h.healthy hopen turn, deaf_step h.healthy hopen hdeaf turn⟩
  helps := by
    rintro s _ ⟨now, rfl⟩ ⟨h, hopen, hdeaf⟩ hgoal
    have hrun : s.loop.result? = none := Option.not_isSome_iff_eq_none.mp hgoal
    have hlistening : s.listening = false := by
      rcases hdeaf with hlistening | hstage
      · exact hlistening
      · exact absurd (h.healthy.finished hstage) hgoal
    obtain ⟨command, rest, hq⟩ := List.exists_cons_of_ne_nil (h.queue_ne_nil hrun hlistening)
    obtain ⟨-, -, hrest⟩ := RunLoop.step_of_queue hrun hq now
    refine Or.inr ?_
    show (s.loop.step now).channel.queue.length < s.loop.channel.queue.length
    rw [hrest, hq]
    exact Nat.lt_succ_self _
  others := by
    rintro s turn hother ⟨h, hopen, hdeaf⟩
    cases turn with
    | controller =>
      simp only [step_controller hopen, Nat.le_refl]
    | front =>
      exact Nat.le_of_eq (congrArg List.length ((advanceFront_spec h.healthy).2.2 hdeaf).2)
    | scheduler now => exact absurd ⟨now, rfl⟩ hother

theorem ended_step (h : Healthy s) (hended : s.loop.result?.isSome) (turn : Turn) :
    (s.step turn).loop.result? = s.loop.result? := by
  cases turn with
  | controller => exact (passes_readLine h).result
  | front => exact (passes_advanceFront h).result
  | scheduler now => exact congrArg RunLoop.result? (RunLoop.step_of_ended hended now).2

/-- The front end finds that the scheduler has stopped. -/
theorem progress_finishing : Progress
    (fun s => Reached m initial commands s ∧ s.controls.isOpen = false ∧ s.loop.result?.isSome)
    (fun s => s.stage = .finished)
    (fun s => s.controls.queue.length + (if s.listening then 1 else 0) + s.stage.untilFinished)
    (· = .front) where
  inv s turn := fun ⟨h, hopen, hended⟩ =>
    ⟨h.step turn, isOpen_step h.healthy hopen turn, by
      rw [ended_step h.healthy hended]
      exact hended⟩
  helps := by
    rintro s _ rfl ⟨h, hopen, hended⟩ hgoal
    have hturn := frontTurn h.healthy.fault h.healthy.stage
    show s.advanceFront.stage = .finished ∨ _
    rw [Session.step]
    generalize s.advanceFront = s' at hturn ⊢
    cases hturn with
    | paints hstage => exact Or.inr (by simp [hstage, Stage.untilFinished])
    | passes hstage hlistening hq => exact Or.inr (by simp [hlistening, hstage, hq])
    | hangsUp hstage hlistening hq hopen =>
      exact Or.inr (by simp [note, hlistening, hstage, hq])
    | leaves hstage hq => exact Or.inr (by simp [hstage, Stage.untilFinished])
    | resumes hstage hrun =>
      rw [hrun] at hended
      exact absurd hended (by decide)
    | finishes hstage => exact Or.inl rfl
    | rests hstage => exact Or.inl hstage
  others := by
    rintro s turn hother ⟨h, hopen, hended⟩
    cases turn with
    | controller =>
      simp only [step_controller hopen, Nat.le_refl]
    | front => exact absurd rfl hother
    | scheduler now => exact Nat.le_refl _

/-! ## The end -/

/-- A session that is over stays over, with the same outcome. -/
theorem finished_step (h : Healthy s) (hstage : s.stage = .finished) (turn : Turn) :
    (s.step turn).stage = .finished ∧ (s.step turn).outcome? = s.outcome? := by
  have hended := h.finished hstage
  cases turn with
  | controller =>
    have hturn := s.controllerTurn
    rw [Session.step]
    generalize s.readLine = s' at hturn ⊢
    cases hturn with
    | closed | ends | skips | sends => exact ⟨hstage, rfl⟩
  | front =>
    rw [Session.step, advanceFront, hstage]
    exact ⟨hstage, rfl⟩
  | scheduler now =>
    rw [Session.step, advanceLoop, (RunLoop.step_of_ended hended now).2]
    exact ⟨hstage, rfl⟩

theorem isSome_outcome? (h : Healthy s) (hstage : s.stage = .finished) : s.outcome?.isSome := by
  have hended := h.finished hstage
  rcases hresult : s.loop.result? with _ | fault | done
  · rw [hresult] at hended
    exact absurd hended (by decide)
  · simp only [outcome?, hstage, hresult]
    rfl
  · simp only [outcome?, hstage, hresult]
    rfl

/-- In a fair schedule the session comes to an end. -/
theorem Reached.ends {turns : Nat → Turn} (hfair : Fair turns) (h : Reached m initial commands s) :
    ∃ n outcome, ∀ k, n ≤ k → (s.playFirst turns k).outcome? = some outcome := by
  have h₀ : Reached m initial commands (s.playFirst turns 0) := h
  obtain ⟨n₁, -, h₁, hopen⟩ := progress_reading.eventually hfair.controller h₀
  obtain ⟨n₂, -, ⟨h₂, hopen₂⟩, hdeaf⟩ := progress_forwarding.eventually hfair.front ⟨h₁, hopen⟩
  have hscheduler : ∀ n, ∃ k, n ≤ k ∧ ∃ now, turns k = .scheduler now := by
    intro n
    obtain ⟨k, now, hk, hturn⟩ := hfair.scheduler n
    exact ⟨k, hk, now, hturn⟩
  obtain ⟨n₃, -, ⟨h₃, hopen₃, -⟩, hended⟩ :=
    progress_handling.eventually hscheduler ⟨h₂, hopen₂, hdeaf⟩
  obtain ⟨n, -, hinv, hstage⟩ := progress_finishing.eventually hfair.front ⟨h₃, hopen₃, hended⟩
  obtain ⟨outcome, houtcome⟩ :=
    Option.isSome_iff_exists.mp (isSome_outcome? hinv.1.healthy hstage)
  have hstays (i : Nat) : (s.playFirst turns (n + i)).stage = .finished ∧
      (s.playFirst turns (n + i)).outcome? = some outcome := by
    induction i with
    | zero => exact ⟨hstage, houtcome⟩
    | succ i ih =>
      have hhealthy := (progress_finishing.inv_add hinv i).1.healthy
      obtain ⟨hstage', houtcome'⟩ := finished_step hhealthy ih.1 (turns (n + i))
      rw [← Nat.add_assoc, playFirst_succ]
      exact ⟨hstage', houtcome'.trans ih.2⟩
  refine ⟨n, outcome, fun k hk => ?_⟩
  obtain ⟨i, rfl⟩ := Nat.exists_eq_add_of_le hk
  exact (hstays i).2

end Session

end Chip8
