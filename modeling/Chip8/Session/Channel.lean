import Chip8.Session.Basic

/-!
# Channels

Key events reach a session through a channel, which keeps their order.  Its
sender may go away; what was sent before is still delivered, and only then
does the session find the channel closed.
-/

namespace Chip8

/-- Something that the sender does. -/
inductive Arrival
  /-- It sends an event. -/
  | event (e : KeyEvent)
  /-- It goes away. -/
  | disconnect
  deriving DecidableEq, Repr

/-- A channel for key events. -/
structure Channel where
  /-- The events not yet delivered, the oldest first. -/
  queue : List KeyEvent := []
  /-- Whether the sender has gone away. -/
  closed : Bool := false
  deriving DecidableEq, Repr

namespace Channel

/-- The channel after the sender did something; after it has gone away it does nothing more. -/
def accept (c : Channel) : Arrival → Channel
  | .event e => if c.closed then c else { c with queue := c.queue ++ [e] }
  | .disconnect => { c with closed := true }

/-- The channel after the sender did several things. -/
def acceptAll (c : Channel) (arrivals : List Arrival) : Channel :=
  arrivals.foldl accept c

end Channel

namespace Session

variable {δ : Type}

/-- A session after it took in what was in the channel. -/
structure Drained (δ : Type) where
  /-- The session. -/
  session : Session δ
  /-- Whether it goes on. -/
  control : Control
  /-- The events that were not taken in. -/
  rest : List KeyEvent
  /-- What there is to tell. -/
  notices : List Notice

/-- Take in queued events in order, up to the first that stops the session.  If none does, the
session stops if the channel is closed. -/
def drain (s : Session δ) (closed : Bool) : List KeyEvent → Drained δ
  | [] =>
    if closed then ⟨s, .stop, [], [.inputGone]⟩ else ⟨s, .proceed, [], []⟩
  | e :: rest =>
    let handled := s.handle e
    match handled.control with
    | .stop => ⟨handled.session, .stop, rest, handled.notices⟩
    | .proceed =>
      let drained := handled.session.drain closed rest
      { drained with notices := handled.notices ++ drained.notices }

end Session

end Chip8
