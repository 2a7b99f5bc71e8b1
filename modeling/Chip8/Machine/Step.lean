import Chip8.Instruction.Decode
import Chip8.Machine.Execute

/-!
# Steps

A step fetches the word at the program counter, decodes it and carries the
instruction out.  The program counter moves on before the instruction runs,
and goes back to it if the instruction faults or waits for a key.
-/

namespace Chip8

/-- The outcome of an instruction that started at an address: unless it is done, the program
counter goes back there. -/
def Outcome.settle (o : Outcome) (pc : UInt16) : Outcome :=
  match o.result with
  | .ok .next => o
  | .ok .waitForKey | .error _ => { o with machine := { o.machine with pc } }

namespace Machine

/-- The word at the program counter. -/
def fetch (m : Machine) : Except Fault Word :=
  if m.pc % 2 = 0 then m.memory.word m.pc else .error (.misalignedPc m.pc)

/-- Run one instruction. -/
def step (m : Machine) : Outcome :=
  match m.fetch with
  | .error f => m.faulted f
  | .ok w => (m.advance.execute (Instruction.decode w)).settle m.pc

theorem step_of_error {m : Machine} {f : Fault} (h : m.fetch = .error f) : m.step = m.faulted f := by
  rw [step, h]

/-- A step carries out the word at the program counter. -/
theorem step_of_word {m : Machine} {w : Word} (h : m.fetch = .ok w) :
    m.step = (m.advance.execute (Instruction.decode w)).settle m.pc := by
  rw [step, h]

end Machine

end Chip8
