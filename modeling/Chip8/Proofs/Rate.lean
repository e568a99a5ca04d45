import Chip8.Proofs.Triggers

/-!
# A ticker keeps its rate

Servicing a ticker that is due moves its deadline by at least a period, and leaves it ahead of the time
of servicing by at most a period. From these two facts the rate of a ticker follows, however late it is
serviced: two firings lie almost as many periods apart as there are steps between them, so that delays
are never made up for in a burst. A ticker that is serviced before its deadline has passed by a whole
period does not drift at all.
-/

namespace Chip8

/-- What the owner of a ticker does with it. -/
inductive TickerUse
  /-- Ask whether it is due. -/
  | poll (now : Nat)
  /-- Service it. -/
  | service (now : Nat)
deriving DecidableEq, Repr

namespace Ticker

/-- When a ticker was serviced. -/
def firings (uses : List TickerUse) : List Nat :=
  uses.filterMap fun
    | .poll _ => none
    | .service now => some now

def use (t : Ticker) : TickerUse → Ticker
  | .poll _ => t
  | .service now => t.advance now

def after (t : Ticker) (uses : List TickerUse) : Ticker := uses.foldl use t

/-- A ticker is serviced only when it is due. -/
def ServicedWhenDue (t : Ticker) : List TickerUse → Prop
  | [] => True
  | .poll _ :: uses => t.ServicedWhenDue uses
  | .service now :: uses => t.Due now ∧ (t.advance now).ServicedWhenDue uses

instance decidableServicedWhenDue :
    (t : Ticker) → (uses : List TickerUse) → Decidable (t.ServicedWhenDue uses)
  | _, [] => .isTrue trivial
  | t, .poll _ :: uses => decidableServicedWhenDue t uses
  | t, .service now :: uses =>
    haveI := decidableServicedWhenDue (t.advance now) uses
    inferInstanceAs (Decidable (_ ∧ _))

/-- A ticker is due at each of these times, if it is serviced at all of them. -/
def Fires (t : Ticker) : (times : List Nat) → Prop
  | [] => True
  | now :: times => t.Due now ∧ (t.advance now).Fires times

variable {t : Ticker} {now : Nat} {times : List Nat} {uses : List TickerUse}

/-! ## One servicing -/

theorem next_add_period_le (t : Ticker) (now : Nat) :
    t.next + t.period ≤ (t.advance now).next := by
  rw [next_advance]
  split <;> omega

theorem lt_next_advance (hperiod : 0 < t.period) (now : Nat) : now < (t.advance now).next := by
  rw [next_advance]
  split <;> omega

theorem next_advance_le (hdue : t.Due now) : (t.advance now).next ≤ now + t.period := by
  rw [Due] at hdue
  rw [next_advance]
  split <;> omega

theorem next_advance_of_lt (hnow : now < t.next + t.period) :
    (t.advance now).next = t.next + t.period := by
  rw [next_advance, if_neg (Nat.not_le.mpr hnow)]

/-! ## Many servicings -/

theorem after_eq_advances (t : Ticker) (uses : List TickerUse) :
    t.after uses = t.advances (firings uses) := by
  induction uses generalizing t with
  | nil => rfl
  | cons use uses ih =>
    cases use with
    | poll now => exact ih t
    | service now => exact ih (t.advance now)

theorem after_append_service (t : Ticker) (before : List TickerUse) (now : Nat) :
    t.after (before ++ [.service now]) = (t.after before).advance now := by
  rw [after, List.foldl_append]
  rfl

theorem ServicedWhenDue.fires (h : t.ServicedWhenDue uses) : t.Fires (firings uses) := by
  induction uses generalizing t with
  | nil => trivial
  | cons use uses ih =>
    cases use with
    | poll now => exact ih h
    | service now => exact ⟨h.1, ih h.2⟩

theorem ServicedWhenDue.due {before later : List TickerUse}
    (h : t.ServicedWhenDue (before ++ .service now :: later)) : (t.after before).Due now := by
  induction before generalizing t with
  | nil => exact h.1
  | cons use before ih =>
    cases use with
    | poll now => exact ih h
    | service now => exact ih h.2

namespace Fires

/-- Every firing before another one has moved the deadline by a period. -/
theorem next_add_le (h : t.Fires times) {k : Nat} (hk : k < times.length) :
    t.next + k * t.period ≤ times[k] := by
  induction times generalizing t k with
  | nil => exact absurd hk (Nat.not_lt_zero k)
  | cons now times ih =>
    obtain ⟨hdue, hlater⟩ := h
    cases k with
    | zero =>
      rw [Nat.zero_mul]
      exact hdue
    | succ k =>
      have hmoved := t.next_add_period_le now
      have hk' := ih hlater (Nat.lt_of_succ_lt_succ hk)
      rw [period_advance] at hk'
      rw [List.getElem_cons_succ, Nat.succ_mul]
      omega

/-- Once a ticker was serviced its deadline lies ahead, so the delays before that do not count. -/
theorem getElem_add_lt (hperiod : 0 < t.period) (h : t.Fires times) {i j : Nat} (hij : i < j)
    (hj : j < times.length) : times[i] + (j - i - 1) * t.period < times[j] := by
  induction times generalizing t i j with
  | nil => exact absurd hj (Nat.not_lt_zero j)
  | cons now times ih =>
    obtain ⟨j, rfl⟩ := Nat.exists_eq_succ_of_ne_zero (Nat.ne_zero_of_lt hij)
    have hj' : j < times.length := Nat.lt_of_succ_lt_succ hj
    cases i with
    | zero =>
      have hahead := lt_next_advance hperiod now
      have hlate := h.2.next_add_le hj'
      rw [period_advance] at hlate
      show now + j * t.period < times[j]
      omega
    | succ i =>
      have hlater := @ih (t.advance now) (by rwa [period_advance]) h.2 i j
        (Nat.lt_of_succ_lt_succ hij) hj'
      rw [period_advance] at hlater
      rw [List.getElem_cons_succ, List.getElem_cons_succ, Nat.succ_sub_succ]
      exact hlater

/-- Within `count` periods from its deadline on a ticker fires at most `count` times. -/
theorem countP_le (h : t.Fires times) {last count : Nat} (hlast : last < t.next + count * t.period) :
    times.countP (· ≤ last) ≤ count := by
  induction times generalizing t count with
  | nil => exact Nat.zero_le count
  | cons now times ih =>
    obtain ⟨hdue, hlater⟩ := h
    rw [Due] at hdue
    have hmoved := t.next_add_period_le now
    by_cases hnow : now ≤ last
    · obtain ⟨count, rfl⟩ : ∃ n, count = n + 1 := by
        refine Nat.exists_eq_succ_of_ne_zero ?_
        rintro rfl
        omega
      rw [Nat.succ_mul] at hlast
      have hrest : times.countP (· ≤ last) ≤ count := by
        refine ih hlater ?_
        rw [period_advance]
        omega
      rw [List.countP_cons_of_pos (by simpa using hnow)]
      exact Nat.succ_le_succ hrest
    · rw [List.countP_cons_of_neg (by simpa using hnow)]
      refine ih hlater ?_
      rw [period_advance]
      omega

/-- A window of `count` periods holds at most `count + 1` firings: behind the first one of them, the
deadline lies ahead of the beginning of the window. -/
theorem countP_window_le (hperiod : 0 < t.period) (h : t.Fires times) (first count : Nat) :
    times.countP (fun now => first ≤ now ∧ now ≤ first + count * t.period) ≤ count + 1 := by
  induction times generalizing t with
  | nil => exact Nat.zero_le _
  | cons now times ih =>
    by_cases hnow : first ≤ now ∧ now ≤ first + count * t.period
    · have hahead := lt_next_advance hperiod now
      have hrest : times.countP (· ≤ first + count * t.period) ≤ count := by
        refine h.2.countP_le ?_
        rw [period_advance]
        omega
      have hwindow : times.countP (fun now => first ≤ now ∧ now ≤ first + count * t.period) ≤
          times.countP (· ≤ first + count * t.period) := by
        refine List.countP_mono_left fun now _ hin => ?_
        simp only [decide_eq_true_eq] at hin ⊢
        exact hin.2
      rw [List.countP_cons_of_pos (by simpa using hnow)]
      omega
    · have hlater := @ih (t.advance now) (by rwa [period_advance]) h.2
      rw [period_advance] at hlater
      rw [List.countP_cons_of_neg (by simpa using hnow)]
      exact hlater

end Fires

/-- A ticker that is always serviced in time keeps to its first deadlines. -/
theorem next_advances_of_lt
    (hlate : ∀ k (hk : k < times.length), times[k] < t.next + (k + 1) * t.period) :
    (t.advances times).next = t.next + times.length * t.period := by
  induction times generalizing t with
  | nil => rw [List.length_nil, Nat.zero_mul, Nat.add_zero, advances, List.foldl_nil]
  | cons now times ih =>
    have hnow : now < t.next + t.period := by
      have h := hlate 0 (Nat.succ_pos _)
      rwa [Nat.zero_add, Nat.one_mul] at h
    have hnext := next_advance_of_lt hnow
    have hlater : ∀ k (hk : k < times.length),
        times[k] < (t.advance now).next + (k + 1) * (t.advance now).period := by
      intro k hk
      have h := hlate (k + 1) (Nat.succ_lt_succ hk)
      rw [List.getElem_cons_succ, Nat.succ_mul (k + 1)] at h
      rw [hnext, period_advance]
      omega
    have hrest : (t.advances (now :: times)).next = _ := ih hlater
    rw [hrest, hnext, period_advance, List.length_cons, Nat.succ_mul]
    omega

end Ticker

/-! ## Main statement -/

/-- A ticker with a period, serviced only when it is due and polled at any times between: the firing
number `k` comes no sooner than `k` periods after the start; firings `i` and `j` lie more than
`j - i - 1` periods apart, so that a window of `count` periods holds at most `count + 1` of them; behind
each firing the deadline lies ahead by at most a period; and if every firing comes before the deadline
that follows, then the deadline has moved by exactly one period for each. The times need not be
given in order: that they are follows. -/
theorem ticker_keeps_its_rate (period start : Nat) (uses : List TickerUse) (hperiod : 0 < period)
    (hdue : (Ticker.start period start).ServicedWhenDue uses) :
    let times := Ticker.firings uses
    (∀ k (hk : k < times.length), start + (k + 1) * period ≤ times[k]) ∧
    (∀ i j (hij : i < j) (hj : j < times.length), times[i] + (j - i - 1) * period < times[j]) ∧
    (∀ first count,
      times.countP (fun now => first ≤ now ∧ now ≤ first + count * period) ≤ count + 1) ∧
    (∀ (before : List TickerUse) now later, uses = before ++ .service now :: later →
      let next := ((Ticker.start period start).after (before ++ [.service now])).next
      now < next ∧ next ≤ now + period) ∧
    ((∀ k (hk : k < times.length), times[k] < start + (k + 2) * period) →
      ((Ticker.start period start).after uses).next = start + (times.length + 1) * period) := by
  intro times
  have hfires : (Ticker.start period start).Fires times := hdue.fires
  have hnext : (Ticker.start period start).next = start + period := rfl
  refine ⟨?_, ?_, hfires.countP_window_le hperiod, ?_, ?_⟩
  · intro k hk
    have hk' : start + period + k * period ≤ times[k] := hfires.next_add_le hk
    rw [Nat.succ_mul]
    omega
  · intro i j hij hj
    exact hfires.getElem_add_lt hperiod hij hj
  · intro before now later hsplit next
    subst hsplit
    have hperiod' : ((Ticker.start period start).after before).period = period := by
      rw [Ticker.after_eq_advances, Ticker.period_advances]
      rfl
    have hlast : next = (((Ticker.start period start).after before).advance now).next := by
      rw [← Ticker.after_append_service]
    rw [hlast]
    constructor
    · exact Ticker.lt_next_advance (by rwa [hperiod']) now
    · have hle := Ticker.next_advance_le hdue.due
      rwa [hperiod'] at hle
  · intro hlate
    have hlate' : ∀ k (hk : k < times.length), times[k] <
        (Ticker.start period start).next + (k + 1) * (Ticker.start period start).period := by
      intro k hk
      have h := hlate k hk
      show times[k] < start + period + (k + 1) * period
      rw [Nat.succ_mul (k + 1)] at h
      omega
    have hdrift := Ticker.next_advances_of_lt hlate'
    rw [Ticker.after_eq_advances, hdrift, hnext, Nat.succ_mul]
    show start + period + times.length * period = _
    omega

/-- A ticker with period 10 that is serviced nine late, then in time, then so late that two deadlines
are dropped; and one that is always serviced in time. -/
theorem ticker_keeps_its_rate_when_late :
    let late : List TickerUse := [.poll 3, .service 19, .poll 19, .service 20, .service 55, .service 65]
    let timely : List TickerUse := [.service 10, .poll 15, .service 29]
    0 < 10 ∧ (Ticker.start 10 0).ServicedWhenDue late ∧ (Ticker.start 10 0).ServicedWhenDue timely ∧
    (Ticker.firings late).countP (fun now => 19 ≤ now ∧ now ≤ 29) ≤ 2 ∧
    19 < ((Ticker.start 10 0).after [.poll 3, .service 19]).next ∧
    ((Ticker.start 10 0).after timely).next = 30 := by
  intro late timely
  have hlate : (Ticker.start 10 0).ServicedWhenDue late := by decide
  have htimely : (Ticker.start 10 0).ServicedWhenDue timely := by decide
  obtain ⟨-, -, hwindow, hahead, -⟩ := ticker_keeps_its_rate 10 0 late (by decide) hlate
  obtain ⟨-, -, -, -, hexact⟩ := ticker_keeps_its_rate 10 0 timely (by decide) htimely
  refine ⟨by decide, hlate, htimely, hwindow 19 1, ?_, hexact (by decide)⟩
  exact (hahead [.poll 3] 19 [.poll 19, .service 20, .service 55, .service 65] rfl).1

end Chip8
