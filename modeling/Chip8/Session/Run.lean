import Chip8.Clock.Ticker
import Chip8.Session.Channel

/-!
# Running a session

A running session goes through passes.  In each it takes in what is in the
channel, and then ticks as far as ticks are due: first the instruction, then
the timers.  It ends when a key event or the end of the channel stops it, or
when a frame cannot be shown.

What comes from outside is given pass by pass: for each number, from one on,
which ticks are due and what the sender of key events does while they happen.
A run goes through so many passes at most, and one that no pass has ended by
then is unfinished.

## Main definitions

* `Pacer.poll`: which ticks are due by the clock
* `Rates.inStep`: whether both kinds of ticks are always due together
* `Pass.steady`: passes in which an instruction is due each time
* `Session.pass`: going through one pass
* `Course.extendUpTo`, `Session.run`: going through one pass after the other

## Main results

* `Pacer.poll_of_eq`, `Rates.inStep_iff`: rates in step are due together
* `Course.extendUpTo_add`: going through passes can be interrupted after any of
  them
-/

namespace Chip8

/-! ## What is due -/

/-- The rates of a session in ticks per second. -/
structure Rates where
  /-- Instructions per second. -/
  speed : UInt32 := 500
  /-- Timer ticks per second. -/
  timer : UInt32 := 60
  deriving DecidableEq, Repr

/-- What happens in a pass besides taking in key events. -/
structure Pass where
  /-- Whether an instruction tick is due. -/
  instruction : Bool := true
  /-- Whether a timer tick is due. -/
  timer : Bool := false
  /-- What the sender of key events does after the channel was looked at. -/
  arrivals : List Arrival := []
  deriving DecidableEq, Repr

/-- The two tickers of a session. -/
structure Pacer where
  /-- The ticker for instructions. -/
  instructions : Ticker
  /-- The ticker for timers. -/
  timers : Ticker
  deriving DecidableEq, Repr

namespace Pacer

/-- The tickers of a session that starts at a time, in nanoseconds. -/
def start (rates : Rates) (now : Nat) : Pacer :=
  ⟨Ticker.ofRate rates.speed.toNat now, Ticker.ofRate rates.timer.toNat now⟩

/-- Which ticks are due at a time, as a pass without arrivals. -/
def poll (p : Pacer) (now : Nat) : Pass × Pacer :=
  let (instruction, instructions) := p.instructions.poll now
  let (timer, timers) := p.timers.poll now
  ({ instruction, timer }, { instructions, timers })

/-- When the next tick is due. -/
def deadline (p : Pacer) : Nat :=
  min p.instructions.deadline p.timers.deadline

/-- Tickers that agree are due together, and agree after that. -/
theorem poll_of_eq {p : Pacer} (h : p.instructions = p.timers) (now : Nat) :
    (p.poll now).1.instruction = (p.poll now).1.timer ∧
      (p.poll now).2.instructions = (p.poll now).2.timers := by
  simp [poll, h]

end Pacer

namespace Rates

/-- Whether timers tick along with instructions.  The tickers count whole nanoseconds, so rates
that differ may have one period. -/
def inStep (r : Rates) : Bool :=
  (Pacer.start r 0).instructions = (Pacer.start r 0).timers

/-- The tickers of rates in step agree whenever the session starts. -/
theorem inStep_iff (r : Rates) (now : Nat) :
    r.inStep ↔ (Pacer.start r now).instructions = (Pacer.start r now).timers := by
  simp [inStep, Pacer.start, Ticker.ofRate, Ticker.ofPeriod]

end Rates

namespace Pass

/-- The pass of a number if an instruction is due in every pass, a timer tick in every pass or in
none, and what the sender does depends on the number. -/
def steady (timer : Bool) (arrivals : Nat → List Arrival) (number : Nat) : Pass :=
  { timer, arrivals := arrivals number }

end Pass

/-! ## Going through passes -/

/-- How a run ended. -/
inductive Ending
  /-- It was stopped. -/
  | stopped
  /-- The display failed. -/
  | failed (error : DisplayError)
  /-- No pass has ended it. -/
  | unfinished
  deriving DecidableEq, Repr

namespace Session

variable {δ : Type}

/-- A session after a pass. -/
structure Passed (δ : Type) where
  /-- The session. -/
  session : Session δ
  /-- The channel with what has not been taken in. -/
  channel : Channel
  /-- How the run ended, if it did. -/
  ending : Option Ending
  /-- How many instruction ticks were completed. -/
  ticks : Nat
  /-- What there is to tell. -/
  notices : List Notice

/-- The timer tick of a pass, if it is due. -/
def tickTimers (s : Session δ) (due : Bool) : Session δ :=
  if due then s.timerTick else s

/-- The ticks of a pass. -/
def tickPass [Display δ] (s : Session δ) (channel : Channel) (pass : Pass) : Passed δ :=
  if pass.instruction then
    let tick := s.instructionTick
    match tick.error with
    | some error => ⟨tick.session, channel, some (.failed error), 0, tick.notices⟩
    | none => ⟨tick.session.tickTimers pass.timer, channel, none, 1, tick.notices⟩
  else ⟨s.tickTimers pass.timer, channel, none, 0, []⟩

/-- Take in what is in the channel, and unless that stops the session, tick. -/
def pass [Display δ] (s : Session δ) (channel : Channel) (pass : Pass) : Passed δ :=
  let drained := s.drain channel.closed channel.queue
  -- What arrives now waits for the next pass.
  let channel := ({ channel with queue := drained.rest }).acceptAll pass.arrivals
  match drained.control with
  | .stop => ⟨drained.session, channel, some .stopped, 0, drained.notices⟩
  | .proceed =>
    let ticked := drained.session.tickPass channel pass
    { ticked with notices := drained.notices ++ ticked.notices }

end Session

/-! ## Going through one pass after the other -/

/-- A run on its way. -/
structure Course (δ : Type) where
  /-- The session. -/
  session : Session δ
  /-- The channel with what has not been taken in. -/
  channel : Channel
  /-- How the run ended, if it did. -/
  ending : Option Ending := none
  /-- How many instruction ticks were completed. -/
  ticks : Nat := 0
  /-- What there is to tell, the latest first. -/
  notices : List Notice := []

/-- What came of a run. -/
structure Report (δ : Type) where
  /-- The session at the end. -/
  session : Session δ
  /-- How the run ended. -/
  ending : Ending
  /-- How many instruction ticks were completed. -/
  ticks : Nat
  /-- What there is to tell. -/
  notices : List Notice

/-- What there is to tell at the end of a run. -/
def Ending.closing (ending : Ending) (ticks : Nat) : List Notice :=
  match ending with
  | .stopped => [.sessionEnded ticks]
  | .failed _ | .unfinished => []

namespace Course

variable {δ : Type}

/-- One pass more. -/
def extend [Display δ] (c : Course δ) (pass : Pass) : Course δ :=
  let passed := c.session.pass c.channel pass
  { session := passed.session
    channel := passed.channel
    ending := passed.ending
    ticks := c.ticks + passed.ticks
    notices := passed.notices.reverse ++ c.notices }

/-- Up to so many passes more, the next of which has a number, ending with the first that ends
the run. -/
def extendUpTo [Display δ] (c : Course δ) (passes : Nat → Pass) (number : Nat) :
    Nat → Course δ
  | 0 => c
  | count + 1 =>
    if c.ending.isSome then c
    else (c.extend (passes number)).extendUpTo passes (number + 1) count

/-- A run that has ended goes through no pass more. -/
theorem extendUpTo_of_ending [Display δ] {c : Course δ} (h : c.ending.isSome)
    (passes : Nat → Pass) (number count : Nat) : c.extendUpTo passes number count = c := by
  cases count <;> simp [extendUpTo, h]

/-- Going through passes can be interrupted after any of them. -/
theorem extendUpTo_add [Display δ] (c : Course δ) (passes : Nat → Pass) (number m n : Nat) :
    c.extendUpTo passes number (m + n) =
      (c.extendUpTo passes number m).extendUpTo passes (number + m) n := by
  induction m generalizing c number with
  | zero => simp [extendUpTo]
  | succ m ih =>
    rw [Nat.add_right_comm]
    by_cases h : c.ending.isSome
    · simp only [extendUpTo_of_ending h]
    · simp only [extendUpTo, h, ih, Bool.false_eq_true, if_false]
      rw [Nat.add_right_comm number 1 m, Nat.add_assoc number m 1]

/-- What came of a run that goes no further. -/
def report (c : Course δ) : Report δ :=
  let ending := c.ending.getD .unfinished
  ⟨c.session, ending, c.ticks, c.notices.reverse ++ ending.closing c.ticks⟩

end Course

namespace Session

variable {δ : Type}

/-- Clear the display and go through passes number 1 to `count`, or as far as the session goes
on. -/
def run [Display δ] (s : Session δ) (rates : Rates) (channel : Channel) (passes : Nat → Pass)
    (count : Nat) : Report δ :=
  match Display.clear s.display with
  | (some error, display) => ⟨{ s with display }, .failed error, 0, []⟩
  | (none, display) =>
    let start : Course δ :=
      { session := { s with display }
        channel
        notices := [.running rates.speed.toNat rates.timer.toNat] }
    (start.extendUpTo passes 1 count).report

end Session

end Chip8
