/-!
# Tickers

A ticker turns readings of a clock into ticks at a fixed rate.  It is polled
with the time, in nanoseconds from some origin, and fires at most once for
each poll.  A poll that comes late fires once and keeps to the grid of
deadlines; if even the next deadline is not in the future, the grid is given
up and starts anew from the time of the poll, so that missed ticks are never
made up in a burst.

Times are natural numbers and may be given in any order.
-/

namespace Chip8

/-- A source of ticks at a fixed rate. -/
structure Ticker where
  /-- The nanoseconds between two ticks. -/
  period : Nat
  /-- When the next tick is due. -/
  deadline : Nat
  deriving DecidableEq, Repr

namespace Ticker

/-- The ticker of a period whose first tick is due one period after the start. -/
def ofPeriod (period start : Nat) : Ticker :=
  ⟨period, start + period⟩

/-- The nanoseconds of a second. -/
def second : Nat := 1000000000

/-- The ticker of a rate in ticks per second; a rate of zero counts as one. -/
def ofRate (rate start : Nat) : Ticker :=
  ofPeriod (second / max rate 1) start

/-- The deadline that follows a tick at the time `now`. -/
def following (t : Ticker) (now : Nat) : Nat :=
  -- At `deadline + period` exactly, the grid is given up already.
  if t.deadline + t.period ≤ now then now + t.period else t.deadline + t.period

/-- Whether a tick is due at the time `now`, and the ticker after that. -/
def poll (t : Ticker) (now : Nat) : Bool × Ticker :=
  if now < t.deadline then (false, t) else (true, { t with deadline := t.following now })

end Ticker

end Chip8
