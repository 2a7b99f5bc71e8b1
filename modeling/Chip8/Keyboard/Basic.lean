import Chip8.Keyboard.Keymap
import Chip8.Keypad.Event
import Chip8.Notice

/-!
# The keyboard

Terminals report that a key was struck, rarely that it was let go, and they
repeat a held key at a rate of their own.  So every strike holds its key for a
fixed time from then on; striking it again starts a new hold, under a new
generation.  A hold ends when the terminal does report the release, or when
its time is over (`Keyboard.expire`).

Generations count up from one over all keys.  Times are milliseconds from some
origin and may be given in any order.

## Main definitions

* `HostEvent`: what a terminal reports
* `Keyboard.receive`: what a host event means
* `Keyboard.deadline?`, `Keyboard.expire`: the end of holds
-/

namespace Chip8

/-- A key of the host. -/
inductive HostKey
  /-- A key that writes a character. -/
  | char (c : Char)
  /-- The escape key. -/
  | escape
  /-- Any other key, by name. -/
  | named (name : String)
  deriving DecidableEq, Repr

/-- What happened to a key of the host. -/
inductive Stroke
  | press
  | again
  | release
  deriving DecidableEq, Repr

/-- The modifier keys held during a stroke. -/
structure Modifiers where
  control : Bool := false
  shift : Bool := false
  alt : Bool := false
  deriving DecidableEq, Repr

/-- What a terminal reports. -/
inductive HostEvent
  /-- A key was struck, repeated or let go. -/
  | key (key : HostKey) (modifiers : Modifiers) (stroke : Stroke)
  /-- Anything else, by name: resizing, focus, the mouse, pasted text. -/
  | other (name : String)
  deriving DecidableEq, Repr

/-- A key being held. -/
structure Hold where
  /-- When the hold ends by itself. -/
  deadline : Nat
  /-- The generation of the press. -/
  generation : UInt64
  deriving DecidableEq, Repr

/-- The keyboard between the terminal and the keypad. -/
structure Keyboard where
  /-- Which characters stand for which keys. -/
  keymap : Keymap
  /-- How long a strike holds its key. -/
  holdTime : Nat
  /-- The generation of the next press. -/
  nextGeneration : UInt64
  /-- The hold of each key, if it is held. -/
  held : Bank (Option Hold)

namespace Keyboard

/-- A keyboard on which no key is held. -/
def ofKeymap (keymap : Keymap) (holdTime : Nat) : Keyboard :=
  ⟨keymap, holdTime, 1, Bank.replicate none⟩

/-- What came of a host event. -/
structure Reaction where
  /-- The keyboard after the event. -/
  keyboard : Keyboard
  /-- What the event means to the keypad, if anything. -/
  event : Option KeyEvent := none
  /-- What there is to tell about it. -/
  notices : List Notice := []

/-- Begin a hold of a key under a new generation. -/
def strike (b : Keyboard) (k : Key) (now : Nat) : Reaction where
  keyboard :=
    { b with
      nextGeneration := b.nextGeneration + 1
      held := b.held.set k (some ⟨now + b.holdTime, b.nextGeneration⟩) }
  event := some (.down k.code b.nextGeneration)

/-- End the hold of a key. -/
def letGo (b : Keyboard) (k : Key) : Keyboard :=
  { b with held := b.held.set k none }

/-- The terminal reports that a key was let go. -/
def release (b : Keyboard) (k : Key) : Reaction :=
  match b.held.get k with
  | some hold => { keyboard := b.letGo k, event := some (.up k.code hold.generation) }
  | none => { keyboard := b }

/-- A stroke of a character: its key is looked up in lower case. -/
def strokeChar (b : Keyboard) (c : Char) (stroke : Stroke) (now : Nat) : Reaction :=
  match b.keymap.key? c.toLower with
  | none => { keyboard := b, notices := [.unmapped c] }
  | some k =>
    match stroke with
    | .release => b.release k
    | .press | .again => b.strike k now

/-- What a host event at the time `now` means.  Escape and control-c quit, however they are
struck. -/
def receive (b : Keyboard) (event : HostEvent) (now : Nat) : Reaction :=
  match event with
  | .key (.char c) modifiers stroke =>
    -- Only the small letter: a terminal that reports a capital has seen shift as well.
    if c = 'c' ∧ modifiers.control then { keyboard := b, event := some .quit }
    else b.strokeChar c stroke now
  | .key .escape _ _ => { keyboard := b, event := some .quit }
  | .key (.named _) _ _ | .other _ => { keyboard := b }

/-- The earliest time at which a hold ends by itself. -/
def deadline? (b : Keyboard) : Option Nat :=
  (b.held.toList.filterMap fun h => h.map Hold.deadline).min?

/-- Whether the hold of a key is over at the time `now`. -/
def isOver (b : Keyboard) (now : Nat) (k : Key) : Bool :=
  match b.held.get k with
  | some hold => hold.deadline ≤ now
  | none => false

/-- The event that ends the hold of a key at the time `now`, if it is over. -/
def ending? (b : Keyboard) (now : Nat) (k : Key) : Option KeyEvent :=
  match b.held.get k with
  | some hold => if hold.deadline ≤ now then some (.up k.code hold.generation) else none
  | none => none

/-- End all holds that are over at the time `now`, from the lowest key up. -/
def expire (b : Keyboard) (now : Nat) : Keyboard × List KeyEvent :=
  ({ b with held := Bank.ofFn fun k => if b.isOver now k then none else b.held.get k },
    (List.finRange 16).filterMap (b.ending? now))

end Keyboard

end Chip8
