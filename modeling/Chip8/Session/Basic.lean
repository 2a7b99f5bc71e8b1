import Chip8.Keypad.Event
import Chip8.Machine.Step
import Chip8.Screen.Display

/-!
# Sessions

A session is a machine with a display.  Three kinds of things happen to it,
each at a pace of its own: instruction ticks, timer ticks and key events.

An instruction tick runs one instruction and shows the frame.  A fault halts
the session for good: from then on instruction ticks only show the frame,
while timers and keys go on as before.

## Main definitions

* `Session.instructionTick`, `Session.timerTick`, `Session.handle`: the three
  kinds of things that happen
-/

namespace Chip8

/-- A machine with a display. -/
structure Session (δ : Type) where
  /-- The machine. -/
  machine : Machine
  /-- What its frames are shown on. -/
  display : δ
  /-- Whether an instruction has faulted. -/
  halted : Bool := false

/-- Whether a session goes on. -/
inductive Control
  | proceed
  | stop
  deriving DecidableEq, Repr

namespace Session

variable {δ : Type}

/-- A session after an instruction tick. -/
structure Tick (δ : Type) where
  /-- The session. -/
  session : Session δ
  /-- Why the frame was not shown, if it was not. -/
  error : Option DisplayError
  /-- What there is to tell. -/
  notices : List Notice

/-- A session after a key event. -/
structure Handled (δ : Type) where
  /-- The session. -/
  session : Session δ
  /-- Whether it goes on. -/
  control : Control := .proceed
  /-- What there is to tell. -/
  notices : List Notice := []

/-- Take in the outcome of an instruction that started at an address. -/
def absorb (s : Session δ) (o : Outcome) (site : UInt16) : Session δ × List Notice :=
  match o.result with
  | .ok _ => ({ s with machine := o.machine }, o.notices)
  | .error fault =>
    -- The outcome of a fault is the machine before it.
    ({ s with machine := o.machine, halted := true }, o.notices ++ [.halting site fault])

/-- Run one instruction, unless the session is halted. -/
def advance (s : Session δ) : Session δ × List Notice :=
  if s.halted then (s, []) else s.absorb s.machine.step s.machine.pc

/-- Show the frame of the machine. -/
def showFrame [Display δ] (s : Session δ) : Option DisplayError × Session δ :=
  let (error, display) := Display.draw s.display s.machine.frame s.machine.toneOn
  (error, { s with display })

/-- Run one instruction, unless the session is halted, and show the frame. -/
def instructionTick [Display δ] (s : Session δ) : Tick δ :=
  let (advanced, notices) := s.advance
  let (error, session) := advanced.showFrame
  { session, error, notices }

/-- Let the timers tick. -/
def timerTick (s : Session δ) : Session δ :=
  { s with machine := s.machine.tick }

/-- Take in a key event. -/
def handle (s : Session δ) : KeyEvent → Handled δ
  | .down code generation => { session := { s with machine := s.machine.keyDown code generation } }
  | .up code generation =>
    let (released, machine) := s.machine.keyUp code generation
    { session := { s with machine }, notices := if released then [] else [.staleRelease code] }
  | .quit => { session := s, control := .stop }

end Session

end Chip8
