/-!
# Key events

What a player does, as the keypad and the session take it: keys going down and
up, each with the generation of the press, and the wish to stop.
-/

namespace Chip8

/-- Something that a player does. -/
inductive KeyEvent
  /-- A key goes down. -/
  | down (code : UInt8) (generation : UInt64)
  /-- A key that went down in some generation goes up. -/
  | up (code : UInt8) (generation : UInt64)
  /-- The player wants to stop. -/
  | quit
  deriving DecidableEq, Repr

end Chip8
