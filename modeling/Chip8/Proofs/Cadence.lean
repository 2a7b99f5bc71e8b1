import Chip8.Clock.Ticker
import Mathlib.Data.List.Chain

/-!
# The cadence of a ticker

A ticker knows its next deadline and nothing else; how often it fired and when it
was polled, it does not remember.  All the same the deadline says a lot about its
history.  Every firing moves it on by a period at least, so firings cannot come
faster than the grid of deadlines, whenever the ticker is polled; and a poll
leaves it in the future, so a ticker that fired is quiet until time has passed.

A firing moves the deadline on by a period exactly if it comes less than a period
late.  While polls are that prompt, the deadline tells how often the ticker
fired; and if polls come a period apart at most, it fired once for every period
that is over.  A firing that is a whole period late, or more, starts a new grid.

## Main definitions

* `Ticker.pollAll`, `Ticker.firings`: polls one after the other
* `Ticker.Steady`, `Ticker.EachPoll`, `Ticker.Prompt`: when polls come
* `Ticker.OnGrid`: how many ticks of a grid are over
* `Ticker.Paced`, `Ticker.Counted`: what the deadline has to do with the firings

## Main results

* `Ticker.polls_induction`: what polls keep
* `Ticker.deadline_add_le`: every firing moves the deadline on
* `Ticker.OnGrid.poll`, `Ticker.OnGrid.pollAll`: steady polls stay on the grid
* `Ticker.paced`: tickers keep their pace
* `Ticker.counted`: a tick is lost exactly if a poll comes a whole period late
-/

namespace Chip8

namespace Ticker

/-! ## One poll -/

section Poll

variable {t : Ticker} {now : Nat}

theorem poll_of_lt (h : now < t.deadline) : t.poll now = (false, t) :=
  if_pos h

theorem poll_of_le (h : t.deadline ≤ now) :
    t.poll now = (true, { t with deadline := t.following now }) :=
  if_neg (Nat.not_lt.mpr h)

theorem period_poll (t : Ticker) (now : Nat) : (t.poll now).2.period = t.period := by
  unfold poll
  split <;> rfl

theorem following_of_lt (h : now < t.deadline + t.period) :
    t.following now = t.deadline + t.period :=
  if_neg (Nat.not_le.mpr h)

theorem following_of_le (h : t.deadline + t.period ≤ now) : t.following now = now + t.period :=
  if_pos h

/-- The deadline that follows is a period later, or more. -/
theorem add_period_le_following (t : Ticker) (now : Nat) :
    t.deadline + t.period ≤ t.following now := by
  unfold following
  split <;> omega

/-- It is in the future, by a period at most. -/
theorem lt_following (hperiod : 0 < t.period) (now : Nat) : now < t.following now := by
  unfold following
  split <;> omega

theorem following_le (h : t.deadline ≤ now) : t.following now ≤ now + t.period := by
  unfold following
  split <;> omega

/-- **A poll leaves the deadline in the future.** -/
theorem lt_deadline_poll (hperiod : 0 < t.period) (now : Nat) : now < (t.poll now).2.deadline := by
  by_cases h : now < t.deadline
  · rw [poll_of_lt h]
    exact h
  · rw [poll_of_le (Nat.not_lt.mp h)]
    exact lt_following hperiod now

theorem deadline_poll_le (h : (t.poll now).1 = true) :
    (t.poll now).2.deadline ≤ now + t.period := by
  by_cases hearly : now < t.deadline
  · rw [poll_of_lt hearly] at h
    cases h
  · have hdue : t.deadline ≤ now := Nat.not_lt.mp hearly
    rw [poll_of_le hdue]
    exact following_le hdue

end Poll

/-! ## Polls one after the other -/

/-- The ticker after it was polled at some times. -/
def pollAll (t : Ticker) : List Nat → Ticker
  | [] => t
  | now :: rest => (t.poll now).2.pollAll rest

/-- The times of the polls that fired. -/
def firings (t : Ticker) : List Nat → List Nat
  | [] => []
  | now :: rest =>
    if (t.poll now).1 = true then now :: (t.poll now).2.firings rest
    else (t.poll now).2.firings rest

theorem pollAll_append (t : Ticker) (first rest : List Nat) :
    t.pollAll (first ++ rest) = (t.pollAll first).pollAll rest := by
  induction first generalizing t with
  | nil => rfl
  | cons now first ih => exact ih (t.poll now).2

theorem period_pollAll (t : Ticker) (times : List Nat) : (t.pollAll times).period = t.period := by
  induction times generalizing t with
  | nil => rfl
  | cons now rest ih => exact (ih (t.poll now).2).trans (period_poll t now)

theorem pollAll_snoc (t : Ticker) (times : List Nat) (now : Nat) :
    t.pollAll (times ++ [now]) = ((t.pollAll times).poll now).2 :=
  pollAll_append t times [now]

/-- What holds before all polls, and is not lost to a poll that comes early nor to one that fires,
holds of polls at any times. -/
theorem polls_induction {motive : Ticker → List Nat → Prop} (nil : ∀ t, motive t [])
    (early : ∀ t now rest, now < t.deadline → motive t rest → motive t (now :: rest))
    (due : ∀ t now rest, t.deadline ≤ now →
      motive { t with deadline := t.following now } rest → motive t (now :: rest))
    (t : Ticker) (times : List Nat) : motive t times := by
  induction times generalizing t with
  | nil => exact nil t
  | cons now rest ih =>
    by_cases hearly : now < t.deadline
    · exact early t now rest hearly (ih t)
    · exact due t now rest (Nat.not_lt.mp hearly) (ih _)

section Firings

variable {t : Ticker} {now : Nat}

theorem pollAll_cons_of_lt (h : now < t.deadline) (rest : List Nat) :
    t.pollAll (now :: rest) = t.pollAll rest := by
  rw [pollAll, poll_of_lt h]

theorem pollAll_cons_of_le (h : t.deadline ≤ now) (rest : List Nat) :
    t.pollAll (now :: rest) = { t with deadline := t.following now }.pollAll rest := by
  rw [pollAll, poll_of_le h]

theorem firings_cons_of_lt (h : now < t.deadline) (rest : List Nat) :
    t.firings (now :: rest) = t.firings rest := by
  rw [firings, poll_of_lt h]
  exact if_neg Bool.false_ne_true

theorem firings_cons_of_le (h : t.deadline ≤ now) (rest : List Nat) :
    t.firings (now :: rest) = now :: { t with deadline := t.following now }.firings rest := by
  rw [firings, poll_of_le h]
  exact if_pos rfl

theorem firings_sublist (t : Ticker) (times : List Nat) : (t.firings times).Sublist times := by
  induction t, times using polls_induction with
  | nil t => exact .slnil
  | early t now rest hearly ih =>
    rw [firings_cons_of_lt hearly]
    exact .cons now ih
  | due t now rest hdue ih =>
    rw [firings_cons_of_le hdue]
    exact .cons_cons now ih

/-- **Firings do not come faster than the grid**, whenever a ticker is polled. -/
theorem le_of_getElem?_firings {times : List Nat} {k : Nat}
    (h : (t.firings times)[k]? = some now) : t.deadline + k * t.period ≤ now := by
  induction t, times using polls_induction generalizing k with
  | nil t => cases h
  | early t first rest hearly ih =>
    rw [firings_cons_of_lt hearly] at h
    exact ih h
  | due t first rest hdue ih =>
    rw [firings_cons_of_le hdue] at h
    cases k with
    | zero =>
      obtain rfl : first = now := Option.some.inj h
      omega
    | succ k =>
      -- All later firings count from the deadline that follows.
      have hlater : t.following first + k * t.period ≤ now := ih h
      have hnext := add_period_le_following t first
      rw [Nat.succ_mul]
      omega

theorem deadline_le_of_mem_firings {times : List Nat} (h : now ∈ t.firings times) :
    t.deadline ≤ now := by
  obtain ⟨k, hk⟩ := List.mem_iff_getElem?.mp h
  exact Nat.le_trans (Nat.le_add_right _ _) (le_of_getElem?_firings hk)

/-- **A ticker does not fire twice at one time**, nor at an earlier one. -/
theorem pairwise_firings (hperiod : 0 < t.period) (times : List Nat) :
    (t.firings times).Pairwise (· < ·) := by
  induction t, times using polls_induction with
  | nil t => exact .nil
  | early t first rest hearly ih =>
    rw [firings_cons_of_lt hearly]
    exact ih hperiod
  | due t first rest hdue ih =>
    rw [firings_cons_of_le hdue]
    refine List.pairwise_cons.mpr ⟨?_, ih hperiod⟩
    intro later hlater
    exact Nat.lt_of_lt_of_le (lt_following hperiod first) (deadline_le_of_mem_firings hlater)

end Firings

/-! ## Steady polls -/

/-- Polls come in the order of time, each at most a period after the one before, and the first at
most a period after the start. -/
def Steady (period start : Nat) (times : List Nat) : Prop :=
  (start :: times).IsChain fun earlier later => earlier ≤ later ∧ later ≤ earlier + period

/-- At a time, so many ticks of a grid are over, and the next is what a ticker waits for. -/
structure OnGrid (t : Ticker) (start ticks now : Nat) : Prop where
  deadline_eq : t.deadline = start + (ticks + 1) * t.period
  le_now : start + ticks * t.period ≤ now
  lt_deadline : now < t.deadline

namespace OnGrid

variable {t : Ticker} {start ticks before now : Nat}

theorem ofPeriod {period : Nat} (hperiod : 0 < period) (start : Nat) :
    (ofPeriod period start).OnGrid start 0 start where
  deadline_eq := by
    show start + period = start + (0 + 1) * period
    omega
  le_now := by
    rw [Nat.zero_mul]
    omega
  lt_deadline := Nat.lt_add_of_pos_right hperiod

/-- The ticks that are over are the whole periods since the start. -/
theorem ticks_eq (h : t.OnGrid start ticks now) : ticks = (now - start) / t.period := by
  have hlt := h.lt_deadline
  have hle_now := h.le_now
  rw [h.deadline_eq] at hlt
  refine (Nat.div_eq_of_lt_le ?_ ?_).symm
  · omega
  · omega

/-- **One poll**, a period later at most, finds one tick more to be over if it fires, and none if it
does not. -/
theorem poll (h : t.OnGrid start ticks before) (hle : before ≤ now)
    (hgap : now ≤ before + t.period) :
    (t.poll now).2.OnGrid start (ticks + (t.poll now).1.toNat) now := by
  obtain ⟨hdeadline, hle_now, hlt⟩ := h
  by_cases hearly : now < t.deadline
  · rw [poll_of_lt hearly]
    exact ⟨hdeadline, Nat.le_trans hle_now hle, hearly⟩
  · have hdue : t.deadline ≤ now := Nat.not_lt.mp hearly
    -- The poll before was in time for the tick that is over now, so this one is less than a period
    -- late.
    have hprompt : now < t.deadline + t.period := by omega
    rw [poll_of_le hdue, following_of_lt hprompt]
    refine ⟨?_, ?_, hprompt⟩
    · show t.deadline + t.period = start + (ticks + 1 + 1) * t.period
      rw [hdeadline, Nat.succ_mul (ticks + 1), Nat.add_assoc]
    · show start + (ticks + 1) * t.period ≤ now
      rw [← hdeadline]
      exact hdue

/-- **Steady polls** find as many ticks to be over as fired. -/
theorem pollAll (h : t.OnGrid start ticks before) {times : List Nat}
    (hsteady : Steady t.period before times) :
    (t.pollAll times).OnGrid start (ticks + (t.firings times).length) (times.getLastD before) := by
  induction times generalizing t ticks before with
  | nil => exact h
  | cons now rest ih =>
    obtain ⟨⟨hle, hgap⟩, hrest⟩ := List.isChain_cons_cons.mp hsteady
    have hpolled := h.poll hle hgap
    have hfurther := ih hpolled (by rwa [Steady, period_poll])
    rw [List.getLastD_cons]
    by_cases hearly : now < t.deadline
    · rw [poll_of_lt hearly] at hfurther
      rw [pollAll_cons_of_lt hearly, firings_cons_of_lt hearly]
      exact hfurther
    · have hdue : t.deadline ≤ now := Nat.not_lt.mp hearly
      rw [poll_of_le hdue] at hfurther
      rw [pollAll_cons_of_le hdue, firings_cons_of_le hdue, List.length_cons, Nat.add_comm _ 1,
        ← Nat.add_assoc]
      exact hfurther

end OnGrid

/-- How a ticker goes that starts at a time. -/
structure Paced (period start : Nat) : Prop where
  firings_sublist : ∀ times, ((ofPeriod period start).firings times).Sublist times
  /-- Firing `k`, counted from zero, is not before its place on the grid. -/
  le_firing : ∀ times k now, ((ofPeriod period start).firings times)[k]? = some now →
    start + (k + 1) * period ≤ now
  /-- However often it is polled at a time, it fires then once at most. -/
  firings_lt : ∀ times, ((ofPeriod period start).firings times).Pairwise (· < ·)
  lt_deadline : ∀ times now, now < ((ofPeriod period start).pollAll (times ++ [now])).deadline
  deadline_le : ∀ times now, (((ofPeriod period start).pollAll times).poll now).1 = true →
    ((ofPeriod period start).pollAll (times ++ [now])).deadline ≤ now + period
  /-- Steady polls fire once for every period that is over. -/
  length_firings : ∀ times last, Steady period start times → times.getLast? = some last →
    ((ofPeriod period start).firings times).length = (last - start) / period
  deadline_eq : ∀ times last, Steady period start times → times.getLast? = some last →
    ((ofPeriod period start).pollAll times).deadline =
      start + ((last - start) / period + 1) * period

/-- Steady polls from the start, with the time of the last of them. -/
theorem onGrid_of_steady {period start last : Nat} (hperiod : 0 < period) {times : List Nat}
    (hsteady : Steady period start times) (hlast : times.getLast? = some last) :
    ((ofPeriod period start).pollAll times).OnGrid start
      ((ofPeriod period start).firings times).length last := by
  have h := (OnGrid.ofPeriod hperiod start).pollAll hsteady
  rw [List.getLastD_eq_getLast?, hlast, Nat.zero_add] at h
  exact h

/-- **Tickers keep their pace**: they neither fire in bursts, nor drift, nor lose ticks. -/
theorem paced {period : Nat} (hperiod : 0 < period) (start : Nat) : Paced period start where
  firings_sublist := (ofPeriod period start).firings_sublist
  le_firing times k now h := by
    have hle : start + period + k * period ≤ now := le_of_getElem?_firings h
    rw [Nat.succ_mul]
    omega
  firings_lt := pairwise_firings hperiod
  lt_deadline times now := by
    rw [pollAll_snoc]
    refine lt_deadline_poll ?_ now
    rw [period_pollAll]
    exact hperiod
  deadline_le times now h := by
    have hle := deadline_poll_le h
    rw [period_pollAll] at hle
    rw [pollAll_snoc]
    exact hle
  length_firings times last hsteady hlast := by
    have h := (onGrid_of_steady hperiod hsteady hlast).ticks_eq
    rw [period_pollAll] at h
    exact h
  deadline_eq times last hsteady hlast := by
    have h := onGrid_of_steady hperiod hsteady hlast
    have hticks := h.ticks_eq
    have hdeadline := h.deadline_eq
    rw [period_pollAll] at hticks hdeadline
    rw [hdeadline, hticks]
    rfl

/-- Polls on the grid and off it, two of them at one time and two a whole period apart. -/
theorem paced_steadyPolls :
    0 < 10 ∧ Paced 10 7 ∧ Steady 10 7 [12, 17, 17, 26, 36, 37] ∧
      ((ofPeriod 10 7).firings [12, 17, 17, 26, 36, 37]).length = (37 - 7) / 10 := by
  have hperiod : 0 < 10 := by decide
  have hsteady : Steady 10 7 [12, 17, 17, 26, 36, 37] := by simp [Steady]
  exact ⟨hperiod, paced hperiod 7, hsteady, (paced hperiod 7).length_firings _ 37 hsteady rfl⟩

/-! ## Prompt polls -/

/-- Something holds of every poll, with the ticker as it is then. -/
def EachPoll (P : Ticker → Nat → Prop) (t : Ticker) : List Nat → Prop
  | [] => True
  | now :: rest => P t now ∧ (t.poll now).2.EachPoll P rest

/-- A poll is less than a period late, if at all. -/
def Prompt (t : Ticker) (now : Nat) : Prop :=
  now < t.deadline + t.period

section Prompt

variable {t : Ticker} {now : Nat}

theorem eachPoll_cons_iff (P : Ticker → Nat → Prop) (t : Ticker) (now : Nat) (rest : List Nat) :
    t.EachPoll P (now :: rest) ↔ P t now ∧ (t.poll now).2.EachPoll P rest := Iff.rfl

theorem prompt_of_lt (h : now < t.deadline) : t.Prompt now :=
  Nat.lt_of_lt_of_le h (Nat.le_add_right _ _)

/-- **Every firing moves the deadline on** by a period, or by more. -/
theorem deadline_add_le (t : Ticker) (times : List Nat) :
    t.deadline + (t.firings times).length * t.period ≤ (t.pollAll times).deadline := by
  induction t, times using polls_induction with
  | nil t =>
    show t.deadline + 0 * t.period ≤ t.deadline
    omega
  | early t now rest hearly ih =>
    rw [firings_cons_of_lt hearly, pollAll_cons_of_lt hearly]
    exact ih
  | due t now rest hdue ih =>
    have hnext := add_period_le_following t now
    rw [firings_cons_of_le hdue, pollAll_cons_of_le hdue, List.length_cons, Nat.succ_mul]
    dsimp only at ih ⊢
    omega

/-- **Firings move the deadline on by a period each** exactly if all polls are prompt. -/
theorem deadline_eq_iff (hperiod : 0 < t.period) (times : List Nat) :
    (t.pollAll times).deadline = t.deadline + (t.firings times).length * t.period ↔
      t.EachPoll Prompt times := by
  induction t, times using polls_induction with
  | nil t =>
    refine iff_of_true ?_ trivial
    show t.deadline = t.deadline + 0 * t.period
    omega
  | early t now rest hearly ih =>
    rw [firings_cons_of_lt hearly, pollAll_cons_of_lt hearly, eachPoll_cons_iff, poll_of_lt hearly,
      and_iff_right (prompt_of_lt hearly)]
    exact ih hperiod
  | due t now rest hdue ih =>
    rw [firings_cons_of_le hdue, pollAll_cons_of_le hdue, eachPoll_cons_iff, poll_of_le hdue,
      List.length_cons, Nat.succ_mul]
    by_cases hprompt : t.Prompt now
    · have hrest := ih hperiod
      rw [and_iff_right hprompt, ← hrest, following_of_lt hprompt]
      dsimp only
      omega
    · -- The deadline moved on by more than a period, and no later firing makes up for that.
      refine iff_of_false ?_ fun h => hprompt h.1
      have hlate : t.deadline + t.period ≤ now := Nat.not_lt.mp hprompt
      have hrest := deadline_add_le { t with deadline := t.following now } rest
      rw [following_of_le hlate] at hrest ⊢
      dsimp only at hrest ⊢
      omega

/-- A poll that is not prompt starts a new grid. -/
theorem deadline_poll_of_not_prompt (h : ¬ t.Prompt now) :
    (t.poll now).2.deadline = now + t.period := by
  have hlate : t.deadline + t.period ≤ now := Nat.not_lt.mp h
  rw [poll_of_le (Nat.le_trans (Nat.le_add_right _ _) hlate)]
  exact following_of_le hlate

end Prompt

/-- What the deadline of a ticker, polled from a start on, has to do with how often it fired. -/
structure Counted (period start : Nat) (times : List Nat) : Prop where
  /-- The deadline is never behind the grid. -/
  le_deadline : start + (((ofPeriod period start).firings times).length + 1) * period ≤
    ((ofPeriod period start).pollAll times).deadline
  /-- It is on the grid, and no tick was lost, exactly if all polls were prompt. -/
  deadline_eq_iff : ((ofPeriod period start).pollAll times).deadline =
      start + (((ofPeriod period start).firings times).length + 1) * period ↔
    (ofPeriod period start).EachPoll Prompt times
  /-- If one that is not prompt comes next, a new grid starts there. -/
  new_grid : ∀ now, ¬ ((ofPeriod period start).pollAll times).Prompt now →
    ((ofPeriod period start).pollAll (times ++ [now])).deadline = now + period

/-- **A tick is lost exactly if a poll comes a whole period late**, or more. -/
theorem counted {period : Nat} (hperiod : 0 < period) (start : Nat) (times : List Nat) :
    Counted period start times where
  le_deadline := by
    have hle : start + period + ((ofPeriod period start).firings times).length * period ≤ _ :=
      deadline_add_le (ofPeriod period start) times
    rw [Nat.succ_mul]
    omega
  deadline_eq_iff := by
    rw [← Ticker.deadline_eq_iff hperiod times, Nat.succ_mul]
    show _ ↔ _ = start + period + ((ofPeriod period start).firings times).length * period
    omega
  new_grid now h := by
    rw [pollAll_snoc, deadline_poll_of_not_prompt h, period_pollAll]
    rfl

/-- Early polls and late ones, the last of them by all but a whole period. -/
theorem counted_promptPolls :
    0 < 10 ∧ Counted 10 0 [3, 10, 25, 26, 31, 49] ∧
      (ofPeriod 10 0).EachPoll Prompt [3, 10, 25, 26, 31, 49] := by
  have hperiod : 0 < 10 := by decide
  have hcounted : Counted 10 0 [3, 10, 25, 26, 31, 49] := counted hperiod 0 _
  exact ⟨hperiod, hcounted, hcounted.deadline_eq_iff.mp (by decide)⟩

/-- A poll that comes a whole period late, and no more than that, loses a tick: the ticker fired
once, and its deadline is that of the third tick. -/
theorem deadline_ne_of_whole_period_late :
    0 < 10 ∧ [20].Pairwise (· ≤ ·) ∧
      (ofPeriod 10 0).EachPoll (fun t now => now ≤ t.deadline + t.period) [20] ∧
      ((ofPeriod 10 0).firings [20]).length = 1 ∧ ((ofPeriod 10 0).pollAll [20]).deadline = 30 ∧
      ((ofPeriod 10 0).pollAll [20]).deadline ≠
        0 + (((ofPeriod 10 0).firings [20]).length + 1) * 10 :=
  ⟨by decide, by decide, ⟨by decide, trivial⟩, by decide, by decide, by decide⟩

end Ticker

end Chip8
