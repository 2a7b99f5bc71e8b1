import Chip8.Proofs.Operations
import Chip8.Session.Basic

/-!
# What happens to a session

Instruction ticks, timer ticks and key events happen to a session in any order.
To a bare machine each of them means an operation, but for the wish to stop,
which means nothing to it.

## Main definitions

* `Occurrence`, `Session.occur`, `Session.occurAll`: what happens to a session,
  and what it then has to tell
* `Occurrence.operations`: what it means to a bare machine
* `Session.start`: where sessions start
-/

namespace Chip8

/-- Something that happens to a session. -/
inductive Occurrence
  /-- An instruction tick. -/
  | instruction
  /-- A timer tick. -/
  | timer
  /-- A key event. -/
  | key (e : KeyEvent)
  deriving DecidableEq, Repr

/-- What an occurrence means to a bare machine. -/
def Occurrence.operations : Occurrence → List Operation
  | .instruction => [.step]
  | .timer => [.tick]
  | .key (.down code generation) => [.keyDown code generation]
  | .key (.up code generation) => [.keyUp code generation]
  | .key .quit => []

namespace Session

variable {δ : Type}

/-- A session as it starts. -/
def start (m : Machine) (display : δ) : Session δ :=
  { machine := m, display }

variable [Display δ]

/-- A session after an occurrence, and what there is to tell. -/
def occur (s : Session δ) : Occurrence → Session δ × List Notice
  | .instruction => (s.instructionTick.session, s.instructionTick.notices)
  | .timer => (s.timerTick, [])
  | .key e => ((s.handle e).session, (s.handle e).notices)

/-- A session after one occurrence after the other, and what there is to tell. -/
def occurAll (s : Session δ) : List Occurrence → Session δ × List Notice
  | [] => (s, [])
  | o :: rest =>
    let (s, told) := s.occur o
    let (s, further) := s.occurAll rest
    (s, told ++ further)

@[simp] theorem occurAll_nil (s : Session δ) : s.occurAll [] = (s, []) := rfl

theorem occurAll_cons (s : Session δ) (o : Occurrence) (rest : List Occurrence) :
    s.occurAll (o :: rest) =
      (((s.occur o).1.occurAll rest).1, (s.occur o).2 ++ ((s.occur o).1.occurAll rest).2) := rfl

end Session

end Chip8
