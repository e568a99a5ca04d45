import Chip8.Proofs.QueuedCommands
import Chip8.Proofs.Session.History
import Chip8.Proofs.Timers

/-!
# Paused sessions

A session that starts paused and is never asked to change that executes instructions only on request.
What it does is then a matter of its commands alone, apart from the timers, which are counted down
whenever the clock says so. As long as no instruction reads a timer, that cannot be told from the
rest of the machine.
-/

namespace Chip8

/-- While the machine stays paused only handled commands and ticks reach it. -/
theorem withoutTicks_serialise_paused {deeds : List Deed} (h : .handle .pause ∉ deeds) :
    withoutTicks (serialise .paused deeds) =
      serialise .paused ((deeds.filterMap Deed.command?).map Deed.handle) := by
  induction deeds with
  | nil => rfl
  | cons deed deeds ih =>
    rw [List.mem_cons, not_or] at h
    obtain ⟨hne, hrest⟩ := h
    have hstep := ih hrest
    cases deed with
    | handle command =>
      cases command with
      | pause => exact absurd rfl hne
      | step => exact congrArg (Stimulus.cycle :: ·) hstep
      | setKeys mask => exact congrArg (Stimulus.keys mask :: ·) hstep
      | close => exact hstep
    | tick => exact hstep
    | cadence => exact hstep
    | hangUp => exact hstep

theorem Quiet.of_isPrefix {m : Machine} {initial : RunState} {deeds before : List Deed}
    (h : Quiet m initial deeds) (hbefore : before <+: deeds) : Quiet m initial before := by
  obtain ⟨more, rfl⟩ := hbefore
  refine ⟨fun hmem => h.close (List.mem_append_left _ hmem), fun fault hmem => h.fault fault ?_⟩
  rw [serialise_append, Machine.results_append]
  exact List.mem_append_left _ hmem

section Paused

variable {m : Machine} {deeds : List Deed} {p : List Command}

/-- What a paused history shows and leaves is what its commands do, apart from the timers. -/
theorem untimed_history (hpause : .handle .pause ∉ deeds)
    (hhandled : deeds.filterMap Deed.command? <+: p)
    (hread : ∀ e ∈ m.trace (serialise .paused (p.map Deed.handle)), e.word &&& 0xF0FF ≠ 0xF007) :
    m.results (serialise .paused ((deeds.filterMap Deed.command?).map Deed.handle)) =
        m.results (serialise .paused deeds) ∧
      (Steered.follow ⟨m, .paused⟩ (deeds.filterMap Deed.command?)).machine.untimed =
        (m.after (serialise .paused deeds)).untimed := by
  obtain ⟨handled, hdef⟩ : ∃ handled, handled = deeds.filterMap Deed.command? := ⟨_, rfl⟩
  rw [← hdef] at hhandled ⊢
  have hpause' : .handle .pause ∉ handled.map Deed.handle := by
    rw [handle_mem_iff, filterMap_map_handle, hdef, ← handle_mem_iff]
    exact hpause
  have hsame : withoutTicks (serialise .paused (handled.map Deed.handle)) =
      withoutTicks (serialise .paused deeds) := by
    rw [withoutTicks_serialise_paused hpause', withoutTicks_serialise_paused hpause,
      filterMap_map_handle, hdef]
  have hread' : ∀ e ∈ m.trace (serialise .paused (handled.map Deed.handle)),
      e.word &&& 0xF0FF ≠ 0xF007 := by
    intro e he
    obtain ⟨more, rfl⟩ := hhandled
    refine hread e ?_
    rw [List.map_append, serialise_append, Machine.trace, Machine.results_append,
      List.filterMap_append]
    exact List.mem_append_left _ he
  rw [Steered.machine_follow]
  exact Machine.untimed_run rfl (sameButTicks_of_withoutTicks hsame) hread'

end Paused

namespace Session

variable {m : Machine} {commands : List Command} {past : List Deed} {s : Session}

theorem Records.pause_not_mem (h : Records m .paused (commands ++ [.close]) past s)
    (hpause : .pause ∉ commands) : .handle .pause ∉ past := by
  rw [handle_mem_iff]
  intro hmem
  have hmem' := h.handled.subset hmem
  simp [hpause] at hmem'

/-- A paused scheduler that has stopped has handled the segment of the commands that were under way,
and has stopped the way the segment ends. -/
theorem Records.segment_of_paused (h : Records m .paused (commands ++ [.close]) past s)
    (hpause : .pause ∉ commands) :
    let c : Steered := ⟨m, .paused⟩
    let p := c.segment (commands ++ [.close])
    (∀ e ∈ m.trace (serialise .paused (p.map Deed.handle)), e.word &&& 0xF0FF ≠ 0xF007) →
    ∀ result, s.loop.result? = some result →
      past.filterMap Deed.command? = p ∧ c.EndsIn p result := by
  intro c p hread result hended
  have hpause' := h.pause_not_mem hpause
  obtain ⟨before, last, hpast, hquiet, hok, herror⟩ := h.ended result hended
  have hp : p <+: commands ++ [.close] := c.segment_initial _
  -- What was handled cannot go beyond the segment, for that ends with what stops the scheduler.
  have hwithin : past.filterMap Deed.command? <+: p := by
    rcases List.prefix_or_prefix_of_prefix h.handled hp with hle | hge
    · exact hle
    · obtain ⟨deeds, hdeeds, hhandled⟩ := List.prefix_filterMap_iff.mp hge
      rw [hpast] at hdeeds
      rcases List.prefix_concat_iff.mp hdeeds with rfl | hdeeds
      · have hall : past.filterMap Deed.command? = p := by rw [hpast, hhandled]
        exact hall ▸ List.prefix_rfl
      · exfalso
        have hquiet' := hquiet.of_isPrefix hdeeds
        have hpause'' : .handle .pause ∉ deeds := by
          intro hmem
          refine hpause' ?_
          rw [hpast]
          exact List.mem_append_left _ (hdeeds.subset hmem)
        obtain ⟨hresults, -⟩ := untimed_history hpause'' (hhandled ▸ List.prefix_rfl) hread
        rw [← hhandled] at hresults
        obtain ⟨result', hends⟩ := c.ending_segment_close commands
        rcases result' with fault | done
        · have hmem := Steered.error_mem_results_iff.mpr ⟨p, List.prefix_rfl, hends⟩
          rw [hresults] at hmem
          exact hquiet'.fault fault hmem
        · have hmem := Steered.close_mem_iff.mpr ⟨p, List.prefix_rfl, hends⟩
          rw [hhandled, ← handle_mem_iff] at hmem
          exact hquiet'.close hmem
  obtain ⟨hresults, -⟩ := untimed_history hpause' hwithin hread
  obtain ⟨stop, hstop, hends⟩ : ∃ stop, stop <+: past.filterMap Deed.command? ∧
      c.EndsIn stop result := by
    rcases result with fault | done
    · have hmem := (herror fault).mp rfl
      rw [← hresults] at hmem
      exact Steered.error_mem_results_iff.mp hmem
    · refine Steered.close_mem_iff.mp ?_
      rw [← handle_mem_iff, hpast, ← hok.mp rfl]
      exact List.mem_append_right _ List.mem_cons_self
  have hshortest : p <+: stop :=
    Steered.segment_shortest (hstop.trans h.handled) ⟨result, hends⟩
  have hhandled : past.filterMap Deed.command? = p :=
    hwithin.eq_of_length_le (hshortest.trans hstop).length_le
  have hstop : stop = p := (hstop.trans hwithin).eq_of_length_le hshortest.length_le
  exact ⟨hhandled, hstop ▸ hends⟩

end Session

end Chip8
