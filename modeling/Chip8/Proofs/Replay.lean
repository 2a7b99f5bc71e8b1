import Chip8.Proofs.Arrivals
import Chip8.Proofs.Delivery
import Chip8.Proofs.Recording

/-!
# Running is replaying

Where an instruction is due in every pass, and a timer tick in every pass or in
none, a run is a replay: what was sent before it, a tick, what was sent during
the first tick, a tick, and so on, up to the first wish to stop or until the
sender goes away.  Every event is taken in once, in its order, and before the
next instruction; what comes after a wish to stop is not taken in at all.

A run ends early only if the display fails: if it cannot be cleared nothing has
happened yet, and if a frame cannot be shown the instruction before it has been
run, but nothing after it.

## Main definitions

* `replay`: what happens to a session up to the end of some look at the channel
* `EndsAt`: the first look at the channel that ends the session
* `Session.Completes`, `Session.BreaksOff`: what comes of a run that is
  stopped, and of one whose display fails

## Main results

* `keyEvents_replay`: the events that have been taken in, each once
* `Session.extendUpTo_passed`: what has happened after some passes
* `Session.completes_of_shown`, `Session.breaksOff_of_failed`, `Session.run_steady`:
  what comes of a run
-/

namespace Chip8

/-! ## The replay -/

/-- What happens to a session in some passes. -/
def passed (timer : Bool) (sent : Nat → List Arrival) : Nat → List Occurrence
  | 0 => []
  | n + 1 => passed timer sent n ++ taken (sent n) ++ Session.ticks timer

/-- What happens to a session in some passes and the look at the channel after them. -/
def replay (timer : Bool) (sent : Nat → List Arrival) (n : Nat) : List Occurrence :=
  passed timer sent n ++ taken (sent n)

/-- The look at the channel that ends the session: the first to find an arrival that does. -/
structure EndsAt (sent : Nat → List Arrival) (d : Nat) : Prop where
  stops : stops (sent d) = true
  proceeds : ∀ k, k < d → Chip8.stops (sent k) = false

theorem passed_succ (timer : Bool) (sent : Nat → List Arrival) (n : Nat) :
    passed timer sent (n + 1) = replay timer sent n ++ Session.ticks timer := rfl

theorem count_taken (arrivals : List Arrival) {o : Occurrence} (h : ∀ e, o ≠ .key e) :
    (taken arrivals).count o = 0 := by
  rw [List.count_eq_zero]
  intro hmem
  obtain ⟨e, -, he⟩ := List.mem_map.mp hmem
  exact h e he.symm

theorem count_instruction_passed (timer : Bool) (sent : Nat → List Arrival) (n : Nat) :
    (passed timer sent n).count .instruction = n := by
  induction n with
  | zero => rfl
  | succ n ih =>
    have hticks : (Session.ticks timer).count .instruction = 1 := by
      cases timer with
      | false => rfl
      | true => rfl
    rw [passed, List.count_append, List.count_append, ih, hticks,
      count_taken _ fun e => Occurrence.noConfusion]

theorem count_timer_passed (timer : Bool) (sent : Nat → List Arrival) (n : Nat) :
    (passed timer sent n).count .timer = if timer then n else 0 := by
  induction n with
  | zero => cases timer <;> rfl
  | succ n ih =>
    rw [passed, List.count_append, List.count_append, ih,
      count_taken _ fun e => Occurrence.noConfusion]
    cases timer with
    | false => rfl
    | true => rfl

theorem keyEvents_append (first rest : List Occurrence) :
    keyEvents (first ++ rest) = keyEvents first ++ keyEvents rest := by
  induction first with
  | nil => rfl
  | cons o first ih =>
    cases o with
    | key e => exact congrArg (e :: ·) ih
    | instruction => exact ih
    | timer => exact ih

theorem keyEvents_taken (arrivals : List Arrival) : keyEvents (taken arrivals) = heard arrivals := by
  unfold taken
  induction heard arrivals with
  | nil => rfl
  | cons e rest ih => exact congrArg (e :: ·) ih

theorem count_replay (timer : Bool) (sent : Nat → List Arrival) (n : Nat) {o : Occurrence}
    (h : ∀ e, o ≠ .key e) : (replay timer sent n).count o = (passed timer sent n).count o := by
  rw [replay, List.count_append, count_taken _ h, Nat.add_zero]

/-- Before the look that ends the session, every event that was sent is taken in. -/
theorem keyEvents_passed {timer : Bool} {sent : Nat → List Arrival} {n : Nat}
    (h : ∀ k, k < n → stops (sent k) = false) :
    keyEvents (passed timer sent n) =
      (List.range n).flatMap fun k => (sent k).filterMap Arrival.event? := by
  induction n with
  | zero => rfl
  | succ n ih =>
    have hticks : keyEvents (Session.ticks timer) = [] := by
      cases timer with
      | false => rfl
      | true => rfl
    rw [passed, keyEvents_append, keyEvents_append, ih fun k hk => h k (Nat.lt_succ_of_lt hk),
      keyEvents_taken, heard_of_proceeds (h n (Nat.lt_succ_self n)), hticks, List.append_nil,
      List.range_succ, List.flatMap_append]
    simp

/-- Up to the end of a look at the channel, all the events it finds are taken in besides. -/
theorem keyEvents_replay {timer : Bool} {sent : Nat → List Arrival} {n : Nat}
    (h : ∀ k, k < n → stops (sent k) = false) :
    keyEvents (replay timer sent n) =
      ((List.range n).flatMap fun k => (sent k).filterMap Arrival.event?) ++ heard (sent n) := by
  rw [replay, keyEvents_append, keyEvents_taken, keyEvents_passed h]

namespace Session

theorem occurAll_append {δ : Type} [Display δ] (s : Session δ) (first rest : List Occurrence) :
    s.occurAll (first ++ rest) =
      (((s.occurAll first).1.occurAll rest).1,
        (s.occurAll first).2 ++ ((s.occurAll first).1.occurAll rest).2) := by
  induction first generalizing s with
  | nil => rfl
  | cons o first ih =>
    rw [List.cons_append, occurAll_cons, occurAll_cons, ih, List.append_assoc]

/-! ## Passes -/

section Passes

variable {δ : Type} [Display δ]

/-- The ticks of a pass whose frame is shown. -/
theorem tickPass_of_shown {s : Session δ} {p : Pass} (hp : p.instruction = true)
    (h : s.instructionTick.error = none) (channel : Channel) :
    s.tickPass channel p =
      ⟨(s.occurAll (ticks p.timer)).1, channel, none, 1, (s.occurAll (ticks p.timer)).2⟩ := by
  unfold tickPass
  rw [hp, if_pos rfl]
  dsimp only
  rw [h]
  cases ht : p.timer with
  | false =>
    show _ = Passed.mk s.instructionTick.session channel none 1 (s.instructionTick.notices ++ [])
    rw [List.append_nil]
    rfl
  | true =>
    show _ = Passed.mk s.instructionTick.session.timerTick channel none 1
      (s.instructionTick.notices ++ ([] ++ []))
    rw [List.append_nil, List.append_nil]
    rfl

/-- The ticks of a pass whose frame is not shown: the instruction is the last thing to happen. -/
theorem tickPass_of_failed {s : Session δ} {p : Pass} (hp : p.instruction = true)
    {error : DisplayError} (h : s.instructionTick.error = some error) (channel : Channel) :
    s.tickPass channel p =
      ⟨(s.occurAll [.instruction]).1, channel, some (.failed error), 0,
        (s.occurAll [.instruction]).2⟩ := by
  unfold tickPass
  rw [hp, if_pos rfl]
  dsimp only
  rw [h]
  show _ = Passed.mk s.instructionTick.session channel _ 0 (s.instructionTick.notices ++ [])
  rw [List.append_nil]

/-- A run on its way through passes in which the session goes on and every frame is shown. -/
def courseAfter (s : Session δ) (opening : Notice) (timer : Bool) (sent : Nat → List Arrival)
    (n : Nat) : Course δ where
  session := (s.occurAll (passed timer sent n)).1
  channel := Channel.after (sent n)
  ticks := n
  notices := (s.occurAll (passed timer sent n)).2.reverse ++ [opening]

variable {s : Session δ} {opening : Notice} {timer : Bool} {sent : Nat → List Arrival} {n : Nat}

/-- One pass more in which the session goes on and the frame is shown. -/
theorem extend_courseAfter (hproceeds : stops (sent n) = false)
    (hshown : (s.occurAll (replay timer sent n)).1.instructionTick.error = none) :
    (s.courseAfter opening timer sent n).extend (Pass.steady timer sent (n + 1)) =
      s.courseAfter opening timer sent (n + 1) := by
  rw [replay, occurAll_append] at hshown
  unfold Course.extend courseAfter
  dsimp only
  rw [pass_after_of_proceeds _ hproceeds, tickPass_of_shown rfl hshown, passed_succ, replay,
    occurAll_append, occurAll_append]
  simp [Pass.steady]

theorem extendUpTo_one {c : Course δ} (h : c.ending = none) (passes : Nat → Pass)
    (number : Nat) : c.extendUpTo passes number 1 = c.extend (passes number) := by
  rw [Course.extendUpTo, h]
  rfl

/-- **Passes**: as long as the session goes on and frames are shown, what has happened is the
replay. -/
theorem extendUpTo_passed (hproceeds : ∀ k, k < n → stops (sent k) = false)
    (hshown : ∀ k, k < n → (s.occurAll (replay timer sent k)).1.instructionTick.error = none) :
    (s.courseAfter opening timer sent 0).extendUpTo (Pass.steady timer sent) 1 n =
      s.courseAfter opening timer sent n := by
  -- The induction leaves the last pass to the end: the channel it meets holds what was sent during
  -- the pass before it.
  induction n with
  | zero => rfl
  | succ n ih =>
    have hbefore := ih (fun k hk => hproceeds k (Nat.lt_succ_of_lt hk))
      (fun k hk => hshown k (Nat.lt_succ_of_lt hk))
    rw [Course.extendUpTo_add, hbefore, extendUpTo_one rfl, Nat.add_comm 1 n]
    exact extend_courseAfter (hproceeds n (Nat.lt_succ_self n)) (hshown n (Nat.lt_succ_self n))

/-- A pass that ends the run is the last, however many might follow. -/
theorem extendUpTo_last {passes : Nat → Pass} {c : Course δ} {count : Nat}
    (hbefore : (s.courseAfter opening timer sent 0).extendUpTo passes 1 n = c)
    (hending : c.ending = none) (hlast : (c.extend (passes (n + 1))).ending.isSome)
    (hcount : n < count) :
    (s.courseAfter opening timer sent 0).extendUpTo passes 1 count =
      c.extend (passes (n + 1)) := by
  obtain ⟨more, rfl⟩ : ∃ more, count = n + (1 + more) := ⟨count - n - 1, by omega⟩
  rw [Course.extendUpTo_add, hbefore, Course.extendUpTo_add, extendUpTo_one hending,
    Nat.add_comm 1 n, Course.extendUpTo_of_ending hlast]

/-- What comes of a run whose frames are shown until it is stopped. -/
theorem report_of_shown {d count : Nat} (hd : EndsAt sent d) (hcount : d < count)
    (hshown : ∀ k, k < d → (s.occurAll (replay timer sent k)).1.instructionTick.error = none) :
    ((s.courseAfter opening timer sent 0).extendUpTo (Pass.steady timer sent) 1 count).report =
      ⟨(s.occurAll (replay timer sent d)).1, .stopped, d,
        opening :: ((s.occurAll (replay timer sent d)).2 ++ farewell (sent d)) ++
          [.sessionEnded d]⟩ := by
  have hbefore : (s.courseAfter opening timer sent 0).extendUpTo (Pass.steady timer sent) 1 d =
      s.courseAfter opening timer sent d := extendUpTo_passed hd.proceeds hshown
  -- The pass after those looks at the channel, and finds there that the session is over.
  obtain ⟨channel, hpass⟩ := pass_after_of_stops (s.occurAll (passed timer sent d)).1 hd.stops
    (Pass.steady timer sent (d + 1))
  have hlast : (s.courseAfter opening timer sent d).extend (Pass.steady timer sent (d + 1)) =
      ⟨(s.occurAll (replay timer sent d)).1, channel, some .stopped, d,
        (opening :: ((s.occurAll (replay timer sent d)).2 ++ farewell (sent d))).reverse⟩ := by
    unfold Course.extend courseAfter
    dsimp only
    rw [hpass, replay, occurAll_append]
    simp
  rw [extendUpTo_last hbefore rfl (by rw [hlast]; rfl) hcount, hlast]
  unfold Course.report
  rw [List.reverse_reverse]
  rfl

/-- What comes of a run in which some frame is the first not to be shown. -/
theorem report_of_failed {i count : Nat} {error : DisplayError}
    (hproceeds : ∀ k, k ≤ i → stops (sent k) = false) (hcount : i < count)
    (hshown : ∀ k, k < i → (s.occurAll (replay timer sent k)).1.instructionTick.error = none)
    (hfails : (s.occurAll (replay timer sent i)).1.instructionTick.error = some error) :
    ((s.courseAfter opening timer sent 0).extendUpTo (Pass.steady timer sent) 1 count).report =
      ⟨(s.occurAll (replay timer sent i ++ [.instruction])).1, .failed error, i,
        opening :: (s.occurAll (replay timer sent i ++ [.instruction])).2⟩ := by
  have hbefore : (s.courseAfter opening timer sent 0).extendUpTo (Pass.steady timer sent) 1 i =
      s.courseAfter opening timer sent i :=
    extendUpTo_passed (fun k hk => hproceeds k (Nat.le_of_lt hk)) hshown
  have hlast : (s.courseAfter opening timer sent i).extend (Pass.steady timer sent (i + 1)) =
      ⟨(s.occurAll (replay timer sent i ++ [.instruction])).1, Channel.after (sent (i + 1)),
        some (.failed error), i,
        (opening :: (s.occurAll (replay timer sent i ++ [.instruction])).2).reverse⟩ := by
    rw [replay, occurAll_append] at hfails
    unfold Course.extend courseAfter
    dsimp only
    rw [pass_after_of_proceeds _ (hproceeds i (Nat.le_refl i)), tickPass_of_failed rfl hfails,
      replay, occurAll_append, occurAll_append]
    simp [Pass.steady]
  rw [extendUpTo_last hbefore rfl (by rw [hlast]; rfl) hcount, hlast]
  unfold Course.report
  rw [List.reverse_reverse]
  exact congrArg (Report.mk _ _ _) (List.append_nil _)

end Passes

/-- Nothing that happens to a session makes it tell that it ended. -/
theorem not_ended_occurAll {δ : Type} [Display δ] (s : Session δ) (os : List Occurrence)
    (ticks : Nat) : Notice.sessionEnded ticks ∉ (s.occurAll os).2 := by
  induction os generalizing s with
  | nil => exact List.not_mem_nil
  | cons o rest ih =>
    rw [occurAll_cons]
    intro hmem
    rcases List.mem_append.mp hmem with hnow | hlater
    · cases o with
      | instruction =>
        rcases mem_advance_notices hnow with ⟨_, _, he⟩ | ⟨_, _, he⟩ | ⟨_, _, he⟩
        · cases he
        · cases he
        · cases he
      | timer => exact List.not_mem_nil hnow
      | key e =>
        cases e with
        | down code generation => exact List.not_mem_nil hnow
        | up code generation =>
          unfold occur handle at hnow
          dsimp only at hnow
          split at hnow
          · exact List.not_mem_nil hnow
          · cases List.mem_singleton.mp hnow
        | quit => exact List.not_mem_nil hnow
    · exact ih _ hlater

end Session

/-! ## The display after a replay -/

namespace Session

section Recording

variable {s : Session (Unreliable Recorder)}
variable {timer : Bool} {sent : Nat → List Arrival} {n : Nat}

/-- A display that has only been cleared shows the frames of a replay, if none is to fail. -/
theorem shows_replay (hblank : s.display.Blank)
    (h : ∀ k, k < n → s.display.drawFault (k + 1) = none) :
    s.display.Shows n (s.occurAll (replay timer sent n)).1.display := by
  have hcount : (replay timer sent n).count .instruction = n := by
    rw [count_replay _ _ _ fun e => Occurrence.noConfusion, count_instruction_passed]
  have hshows := display_occurAll (replay timer sent n) fun k hk => by
    rw [hblank.attempts_eq, Nat.zero_add]
    exact h k (hcount ▸ hk)
  rw [hcount] at hshows
  exact hshows

/-- The attempt after a replay fares as it is to. -/
theorem drawFault_replay (hblank : s.display.Blank)
    (h : ∀ k, k < n → s.display.drawFault (k + 1) = none) :
    (s.occurAll (replay timer sent n)).1.display.drawFault
        ((s.occurAll (replay timer sent n)).1.display.attempts + 1) =
      s.display.drawFault (n + 1) := by
  have hshows : s.display.Shows n (s.occurAll (replay timer sent n)).1.display :=
    shows_replay hblank h
  rw [hshows.drawFault_eq, hshows.attempts_eq, hblank.attempts_eq, Nat.zero_add]

theorem shown_replay (hblank : s.display.Blank)
    (h : ∀ k, k < n → s.display.drawFault (k + 1) = none) :
    ∀ k, k < n → (s.occurAll (replay timer sent k)).1.instructionTick.error = none := by
  intro k hk
  have hbefore : ∀ j, j < k → s.display.drawFault (j + 1) = none :=
    fun j hj => h j (Nat.lt_trans hj hk)
  exact (instructionTick_of_shown ((drawFault_replay hblank hbefore).trans (h k hk))).1

end Recording

/-! ## What comes of a run -/

/-- What comes of a run that is stopped by what a look at the channel finds: a frame was shown for
each tick, every event was taken in once and in its order, up to the one that stopped it, and the
end of the session is told last. -/
structure Completes (s : Session (Unreliable Recorder)) (opening : Notice) (timer : Bool)
    (sent : Nat → List Arrival) (d : Nat) (report : Report (Unreliable Recorder)) : Prop where
  ending_eq : report.ending = .stopped
  ticks_eq : report.ticks = d
  session_eq : report.session = (s.occurAll (replay timer sent d)).1
  instructions_eq : (replay timer sent d).count .instruction = d
  timers_eq : (replay timer sent d).count .timer = if timer then d else 0
  events_eq : keyEvents (replay timer sent d) =
    ((List.range d).flatMap fun k => (sent k).filterMap Arrival.event?) ++ heard (sent d)
  frames_eq : report.session.display.inner.frames = d
  clears_eq : report.session.display.inner.clears = 1
  notices_eq : report.notices =
    opening :: ((s.occurAll (replay timer sent d)).2 ++ farewell (sent d)) ++ [.sessionEnded d]
  told_last : (report.notices.map Notice.message).getLast? =
    some ("session ended after " ++ toString d ++ " ticks")

/-- What comes of a run in which the frame after `i` others is the first not to be shown: its
instruction was run, nothing happened after it, and no end of the session is told. -/
structure BreaksOff (s : Session (Unreliable Recorder)) (opening : Notice) (timer : Bool)
    (sent : Nat → List Arrival) (i : Nat) (reason : String)
    (report : Report (Unreliable Recorder)) : Prop where
  ending_eq : report.ending = .failed (.device reason)
  ticks_eq : report.ticks = i
  session_eq : report.session = (s.occurAll (replay timer sent i ++ [.instruction])).1
  instructions_eq : (replay timer sent i ++ [Occurrence.instruction]).count .instruction = i + 1
  timers_eq : (replay timer sent i ++ [Occurrence.instruction]).count .timer =
    if timer then i else 0
  events_eq : keyEvents (replay timer sent i ++ [.instruction]) =
    (List.range (i + 1)).flatMap fun k => (sent k).filterMap Arrival.event?
  frames_eq : report.session.display.inner.frames = i
  clears_eq : report.session.display.inner.clears = 1
  notices_eq : report.notices = opening :: (s.occurAll (replay timer sent i ++ [.instruction])).2
  not_ended : ∀ ticks, Notice.sessionEnded ticks ∉ report.notices

section Outcomes

variable {s : Session (Unreliable Recorder)} {timer : Bool} {sent : Nat → List Arrival}

theorem completes_of_shown (hblank : s.display.Blank) (opening : Notice) {d count : Nat}
    (hd : EndsAt sent d) (hcount : d < count)
    (hdraws : ∀ k, k < d → s.display.drawFault (k + 1) = none) :
    s.Completes opening timer sent d
      ((s.courseAfter opening timer sent 0).extendUpTo (Pass.steady timer sent) 1 count).report := by
  have hshows : s.display.Shows d (s.occurAll (replay timer sent d)).1.display :=
    shows_replay hblank hdraws
  rw [report_of_shown hd hcount (shown_replay hblank hdraws)]
  constructor
  case ending_eq => rfl
  case ticks_eq => rfl
  case session_eq => rfl
  case instructions_eq =>
    rw [count_replay _ _ _ fun e => Occurrence.noConfusion, count_instruction_passed]
  case timers_eq => rw [count_replay _ _ _ fun e => Occurrence.noConfusion, count_timer_passed]
  case events_eq => exact keyEvents_replay hd.proceeds
  case frames_eq => rw [hshows.frames_eq, hblank.frames_eq, Nat.zero_add]
  case clears_eq => rw [hshows.clears_eq, hblank.clears_eq]
  case notices_eq => rfl
  case told_last =>
    rw [List.map_append]
    exact List.getLast?_concat

theorem breaksOff_of_failed (hblank : s.display.Blank) {timerRate speed i count : Nat}
    {reason : String} (hproceeds : ∀ k, k ≤ i → stops (sent k) = false) (hcount : i < count)
    (hdraws : ∀ k, k < i → s.display.drawFault (k + 1) = none)
    (hfault : s.display.drawFault (i + 1) = some reason) :
    s.BreaksOff (.running speed timerRate) timer sent i reason
      ((s.courseAfter (.running speed timerRate) timer sent 0).extendUpTo
        (Pass.steady timer sent) 1 count).report := by
  have hshows : s.display.Shows i (s.occurAll (replay timer sent i)).1.display :=
    shows_replay hblank hdraws
  obtain ⟨herror, hinner⟩ :=
    instructionTick_of_failed ((drawFault_replay hblank hdraws).trans hfault)
  rw [report_of_failed hproceeds hcount (shown_replay hblank hdraws) herror]
  -- The display at the end is the one after the replay, but for one more attempt.
  have hrecord : (s.occurAll (replay timer sent i ++ [.instruction])).1.display.inner =
      (s.occurAll (replay timer sent i)).1.display.inner := by
    rw [occurAll_append]
    exact hinner
  constructor
  case ending_eq => rfl
  case ticks_eq => rfl
  case session_eq => rfl
  case instructions_eq =>
    rw [List.count_append, count_replay _ _ _ fun e => Occurrence.noConfusion,
      count_instruction_passed]
    rfl
  case timers_eq =>
    rw [List.count_append, count_replay _ _ _ fun e => Occurrence.noConfusion, count_timer_passed]
    rfl
  case events_eq =>
    rw [keyEvents_append, keyEvents_replay fun k hk => hproceeds k (Nat.le_of_lt hk),
      heard_of_proceeds (hproceeds i (Nat.le_refl i)), List.range_succ, List.flatMap_append,
      List.flatMap_singleton]
    exact List.append_nil _
  case frames_eq => rw [hrecord, hshows.frames_eq, hblank.frames_eq, Nat.zero_add]
  case clears_eq => rw [hrecord, hshows.clears_eq, hblank.clears_eq]
  case notices_eq => rfl
  case not_ended =>
    intro ticks hmem
    rcases List.mem_cons.mp hmem with hopening | hlater
    · cases hopening
    · exact not_ended_occurAll _ _ ticks hlater

end Outcomes

/-- **Running is replaying.**  Let a run begin with a display that was not used before, let an
instruction be due in every pass, and let the look at the channel after `d` passes be the one that
ends the session.  If the display can be cleared and shows `d` frames, the run completes; if it
shows fewer, the run breaks off at the first it does not show; if it cannot be cleared, nothing
happens at all. -/
theorem run_steady (m : Machine) (drawFault : Nat → Option String) (clearFault : Option String)
    (rates : Rates) (timer : Bool) {sent : Nat → List Arrival} {d count : Nat}
    (hd : EndsAt sent d) (hcount : d < count) :
    let s := start m (⟨{}, drawFault, clearFault, 0⟩ : Unreliable Recorder)
    let cleared := start m (⟨{ clears := 1 }, drawFault, clearFault, 0⟩ : Unreliable Recorder)
    let opening := Notice.running rates.speed.toNat rates.timer.toNat
    let report := s.run rates (Channel.after (sent 0)) (Pass.steady timer sent) count
    (clearFault = none → (∀ k, k < d → drawFault (k + 1) = none) →
      cleared.Completes opening timer sent d report) ∧
    (∀ i reason, clearFault = none → i < d → (∀ k, k < i → drawFault (k + 1) = none) →
      drawFault (i + 1) = some reason →
        cleared.BreaksOff opening timer sent i reason report) ∧
    (∀ reason, clearFault = some reason → report = ⟨s, .failed (.device reason), 0, []⟩) := by
  intro s cleared opening report
  have hblank : cleared.display.Blank := ⟨rfl, rfl, rfl⟩
  have hreport : clearFault = none → report =
      ((cleared.courseAfter opening timer sent 0).extendUpTo
        (Pass.steady timer sent) 1 count).report := by
    rintro rfl
    rfl
  refine ⟨?completes, ?breaks, ?uncleared⟩
  case completes =>
    intro hclear hdraws
    rw [hreport hclear]
    exact completes_of_shown hblank opening hd hcount hdraws
  case breaks =>
    intro i reason hclear hi hdraws hfault
    rw [hreport hclear]
    refine breaksOff_of_failed hblank ?_ (Nat.lt_trans hi hcount) hdraws hfault
    exact fun k hk => hd.proceeds k (Nat.lt_of_le_of_lt hk hi)
  case uncleared =>
    rintro reason rfl
    rfl

/-- A key is held through two passes, and after the wish to stop another is pressed. -/
def exampleSent : Nat → List Arrival
  | 0 => [.event (.down 5 1)]
  | 1 => []
  | 2 => [.event (.up 5 1), .event .quit, .event (.down 3 2)]
  | _ => [.disconnect]

/-- The run completes with two frames; if the second cannot be shown, it breaks off after one. -/
theorem completes_exampleSent :
    EndsAt exampleSent 2 ∧ 2 < 9 ∧
      keyEvents (replay true exampleSent 2) = [.down 5 1, .up 5 1] ∧
      (start (.fresh 0) ⟨{ clears := 1 }, fun _ => none, none, 0⟩).Completes (.running 60 60) true
        exampleSent 2
        ((start (.fresh 0) (⟨{}, fun _ => none, none, 0⟩ : Unreliable Recorder)).run ⟨60, 60⟩
          (Channel.after (exampleSent 0)) (Pass.steady true exampleSent) 9) ∧
      (start (.fresh 0)
        ⟨{ clears := 1 }, fun n => if n = 2 then some "gone" else none, none, 0⟩).BreaksOff
        (.running 60 60) true exampleSent 1 "gone"
        ((start (.fresh 0) (⟨{}, fun n => if n = 2 then some "gone" else none, none, 0⟩ :
            Unreliable Recorder)).run ⟨60, 60⟩
          (Channel.after (exampleSent 0)) (Pass.steady true exampleSent) 9) := by
  have hd : EndsAt exampleSent 2 := ⟨by decide, by decide⟩
  refine ⟨hd, by decide, by decide, ?_, ?_⟩
  · exact (run_steady (.fresh 0) (fun _ => none) none ⟨60, 60⟩ true hd (by decide)).1 rfl
      fun _ _ => rfl
  · exact (run_steady (.fresh 0) (fun n => if n = 2 then some "gone" else none) none ⟨60, 60⟩ true
      hd (by decide)).2.1 1 "gone" rfl (by decide) (by decide) rfl

end Session

end Chip8
