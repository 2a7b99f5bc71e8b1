import Chip8.Proofs.Occurrences
import Chip8.Session.Run
import Mathlib.Data.List.TakeWhile

/-!
# What a session hears

Between two looks at the channel the sender does some things: it sends events,
and it may go away.  A session that looks takes in everything that was sent up
to the first wish to stop, or up to the moment the sender went away, and it goes
on exactly if there was neither.  If it goes on, the channel is empty and open
again, so that the next look starts afresh.

## Main definitions

* `heard`: the events before the first arrival that ends the session
* `taken`: what they mean to the session
* `farewell`: what there is to tell if the sender went away
* `Channel.after`: a channel that was empty and open before some arrivals

## Main results

* `Session.drain_after`: what a look at the channel comes to
* `Session.pass_after_of_stops`, `Session.pass_after_of_proceeds`: what a pass
  comes to
-/

namespace Chip8

namespace Arrival

/-- Whether nothing is heard after this. -/
def isLast : Arrival → Bool
  | .event .quit => true
  | .event _ => false
  | .disconnect => true

/-- The event that was sent, if one was. -/
def event? : Arrival → Option KeyEvent
  | .event e => some e
  | .disconnect => none

end Arrival

/-- Whether some arrivals end the session. -/
def stops (arrivals : List Arrival) : Bool :=
  arrivals.any Arrival.isLast

/-- The events before the first arrival that ends the session. -/
def heard (arrivals : List Arrival) : List KeyEvent :=
  (arrivals.takeWhile fun a => !a.isLast).filterMap Arrival.event?

/-- What the arrivals mean to a session. -/
def taken (arrivals : List Arrival) : List Occurrence :=
  (heard arrivals).map .key

/-- What there is to tell about the end of the arrivals: that the sender went away, if it did. -/
def farewell (arrivals : List Arrival) : List Notice :=
  if arrivals.find? Arrival.isLast = some .disconnect then [.inputGone] else []

theorem taken_cons_event {e : KeyEvent} (h : (Arrival.event e).isLast = false)
    (rest : List Arrival) : taken (.event e :: rest) = .key e :: taken rest := by
  simp [taken, heard, h, Arrival.event?]

theorem farewell_cons_event {e : KeyEvent} (h : (Arrival.event e).isLast = false)
    (rest : List Arrival) : farewell (.event e :: rest) = farewell rest := by
  simp [farewell, h]

/-- Arrivals that do not end the session are heard to the last. -/
theorem heard_of_proceeds {arrivals : List Arrival} (h : stops arrivals = false) :
    heard arrivals = arrivals.filterMap Arrival.event? := by
  have hall : arrivals.takeWhile (fun a => !a.isLast) = arrivals := by
    rw [List.takeWhile_eq_self_iff]
    intro a ha
    have hnot := List.any_eq_false.mp h a ha
    simpa using hnot
  rw [heard, hall]

/-! ## The channel -/

namespace Channel

/-- A channel that was empty and open before some arrivals. -/
def after (arrivals : List Arrival) : Channel :=
  ({} : Channel).acceptAll arrivals

/-- The events that reach the channel: those before the sender goes away. -/
def delivered : List Arrival → List KeyEvent
  | [] => []
  | .event e :: rest => e :: delivered rest
  | .disconnect :: _ => []

theorem acceptAll_of_closed {c : Channel} (h : c.closed = true) (arrivals : List Arrival) :
    c.acceptAll arrivals = c := by
  have hstep : ∀ a, c.accept a = c := by
    intro a
    obtain ⟨queue, closed⟩ := c
    obtain rfl : closed = true := h
    cases a with
    | event e => rfl
    | disconnect => rfl
  induction arrivals with
  | nil => rfl
  | cons a rest ih =>
    show (c.accept a).acceptAll rest = c
    rw [hstep]
    exact ih

theorem acceptAll_of_open (queue : List KeyEvent) (arrivals : List Arrival) :
    (⟨queue, false⟩ : Channel).acceptAll arrivals =
      ⟨queue ++ delivered arrivals, decide (.disconnect ∈ arrivals)⟩ := by
  induction arrivals generalizing queue with
  | nil => simp [acceptAll, delivered]
  | cons a rest ih =>
    cases a with
    | event e =>
      show (⟨queue ++ [e], false⟩ : Channel).acceptAll rest = _
      rw [ih, delivered, List.append_assoc]
      simp
    | disconnect =>
      show (⟨queue, true⟩ : Channel).acceptAll rest = _
      rw [acceptAll_of_closed rfl]
      simp [delivered]

theorem after_eq (arrivals : List Arrival) :
    after arrivals = ⟨delivered arrivals, decide (.disconnect ∈ arrivals)⟩ :=
  acceptAll_of_open [] arrivals

/-- If the session goes on, the sender is still there. -/
theorem closed_after_of_proceeds {arrivals : List Arrival} (h : stops arrivals = false) :
    (after arrivals).closed = false := by
  rw [after_eq]
  refine decide_eq_false fun hmem => ?_
  exact List.any_eq_false.mp h _ hmem rfl

end Channel

/-! ## A look at the channel -/

namespace Session

variable {δ : Type}

theorem drain_event (s : Session δ) (closed : Bool) {e : KeyEvent} (rest : List KeyEvent)
    (h : (Arrival.event e).isLast = false) :
    s.drain closed (e :: rest) =
      { (s.handle e).session.drain closed rest with
        notices := (s.handle e).notices ++ ((s.handle e).session.drain closed rest).notices } := by
  cases e with
  | down code generation => rfl
  | up code generation => rfl
  | quit => cases h

variable [Display δ]

/-- **A look at the channel** takes in what is heard, and the session goes on exactly if nothing
among it ends it; then nothing is left in the channel. -/
theorem drain_after (s : Session δ) (arrivals : List Arrival) :
    ∃ rest, s.drain (Channel.after arrivals).closed (Channel.after arrivals).queue =
        ⟨(s.occurAll (taken arrivals)).1, if stops arrivals then .stop else .proceed, rest,
          (s.occurAll (taken arrivals)).2 ++ farewell arrivals⟩ ∧
      (stops arrivals = false → rest = []) := by
  rw [Channel.after_eq]
  -- The induction follows the arrivals: the session hears them one by one until one is the last.
  induction arrivals generalizing s with
  | nil => exact ⟨[], rfl, fun _ => rfl⟩
  | cons a rest ih =>
    cases a with
    | disconnect => exact ⟨[], rfl, fun h => nomatch h⟩
    | event e =>
      have hclosed : decide (Arrival.disconnect ∈ Arrival.event e :: rest) =
          decide (Arrival.disconnect ∈ rest) := by simp
      rw [hclosed]
      cases hlast : (Arrival.event e).isLast with
      | true =>
        obtain rfl : e = .quit := by
          cases e with
          | down code generation => cases hlast
          | up code generation => cases hlast
          | quit => rfl
        exact ⟨Channel.delivered rest, rfl, fun h => nomatch h⟩
      | false =>
        obtain ⟨left, hdrain, hleft⟩ := ih (s.handle e).session
        have hstops : stops (.event e :: rest) = stops rest := by
          simp [stops, hlast]
        refine ⟨left, ?_, ?_⟩
        · show s.drain _ (e :: Channel.delivered rest) = _
          rw [drain_event s _ _ hlast, hdrain, taken_cons_event hlast, farewell_cons_event hlast,
            hstops, occurAll_cons, List.append_assoc]
          rfl
        · rw [hstops]
          exact hleft

/-! ## A pass -/

/-- What happens in a pass after the look at the channel, if an instruction is due. -/
def ticks (timer : Bool) : List Occurrence :=
  .instruction :: if timer then [.timer] else []

/-- A pass that finds the session to be ended does nothing more. -/
theorem pass_after_of_stops (s : Session δ) {arrivals : List Arrival}
    (h : stops arrivals = true) (p : Pass) :
    ∃ channel, s.pass (Channel.after arrivals) p =
      ⟨(s.occurAll (taken arrivals)).1, channel, some .stopped, 0,
        (s.occurAll (taken arrivals)).2 ++ farewell arrivals⟩ := by
  obtain ⟨rest, hdrain, -⟩ := s.drain_after arrivals
  refine ⟨({ Channel.after arrivals with queue := rest } : Channel).acceptAll p.arrivals, ?_⟩
  unfold pass
  rw [hdrain, h]
  rfl

/-- A pass that finds the session to go on ticks, and what arrives meanwhile meets an empty
channel. -/
theorem pass_after_of_proceeds (s : Session δ) {arrivals : List Arrival}
    (h : stops arrivals = false) (p : Pass) :
    s.pass (Channel.after arrivals) p =
      { (s.occurAll (taken arrivals)).1.tickPass (Channel.after p.arrivals) p with
        notices := (s.occurAll (taken arrivals)).2 ++
          ((s.occurAll (taken arrivals)).1.tickPass (Channel.after p.arrivals) p).notices } := by
  obtain ⟨rest, hdrain, hrest⟩ := s.drain_after arrivals
  obtain rfl := hrest h
  -- Everything was taken in and the sender is still there, so the channel is as good as new.
  have hempty : ({ Channel.after arrivals with queue := [] } : Channel) = {} :=
    congrArg (Channel.mk []) (Channel.closed_after_of_proceeds h)
  have hfarewell : farewell arrivals = [] := by
    rw [farewell, List.find?_eq_none.mpr]
    · rfl
    · exact List.any_eq_false.mp h
  unfold pass
  rw [hdrain, h, hfarewell, List.append_nil]
  dsimp only
  rw [hempty]
  rfl

end Session

end Chip8
