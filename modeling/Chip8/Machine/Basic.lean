import Chip8.Clock.Countdown
import Chip8.Keypad.Basic
import Chip8.Memory.Image
import Chip8.Random.Generator

/-!
# The machine

Everything that a program can see or change: memory, sixteen registers, the
index register, the program counter, a stack of return addresses, two timers,
the keypad and the source of random numbers.

The stack is a bank of sixteen places of which the first `depth` are in use.
A place that is given back keeps what was in it; nothing ever looks at it
before it is written again.

Apart from running instructions, the machine can be loaded with a program,
its timers tick, and keys go up and down.  None of these can fail but loading,
which then leaves the machine as it is.
-/

namespace Chip8

/-- The state of a machine. -/
structure Machine where
  /-- The addressable memory. -/
  memory : Memory
  /-- The registers V0 to VF. -/
  registers : Bank UInt8
  /-- The index register. -/
  index : UInt16
  /-- Where the next instruction lies. -/
  pc : UInt16
  /-- The places for return addresses. -/
  stack : Bank UInt16
  /-- How many places are in use. -/
  depth : Fin 17
  /-- The delay and the sound timer. -/
  timers : Timers
  /-- The sixteen keys. -/
  keypad : Keypad
  /-- The source of random numbers. -/
  random : Generator
  deriving DecidableEq

namespace Machine

/-- A machine as it is switched on, with the seed of its random numbers. -/
def fresh (seed : UInt64) : Machine where
  memory := Memory.fresh
  registers := Bank.replicate 0
  index := 0
  pc := UInt16.ofNat Memory.programStart
  stack := Bank.replicate 0
  depth := 0
  timers := {}
  keypad := Keypad.fresh
  random := Generator.ofSeed seed

/-- The value of a register. -/
def reg (m : Machine) (x : Register) : UInt8 :=
  m.registers.get x

/-- The machine with a register set. -/
def setReg (m : Machine) (x : Register) (b : UInt8) : Machine :=
  { m with registers := m.registers.set x b }

/-- The register set holds what it was set to, and all others stay. -/
theorem reg_setReg (m : Machine) (x j : Register) (b : UInt8) :
    (m.setReg x b).reg j = if j = x then b else m.reg j :=
  Bank.get_set m.registers x j b

/-- The return addresses in use, the latest last. -/
def pending (m : Machine) : List UInt16 :=
  m.stack.toList.take m.depth.val

/-- The bytes of the frame. -/
def frame (m : Machine) : List UInt8 :=
  m.memory.frame

/-- Whether the tone sounds. -/
def toneOn (m : Machine) : Bool :=
  m.timers.sound.isRunning

/-! ## What happens from outside -/

/-- The machine with a program image in memory; nothing else is reset. -/
def load (m : Machine) (image : Image) : Except LoadError Machine :=
  (m.memory.load image).map fun memory => { m with memory }

/-- The machine after a tick of its timers. -/
def tick (m : Machine) : Machine :=
  { m with timers := m.timers.tick }

/-- The machine after so many ticks of its timers. -/
def elapse (m : Machine) (ticks : Nat) : Machine :=
  { m with timers := m.timers.elapse ticks }

theorem elapse_zero (m : Machine) : m.elapse 0 = m := by
  simp [elapse, Timers.elapse_zero]

/-- The ticks come one after the other. -/
theorem elapse_succ (m : Machine) (ticks : Nat) :
    m.elapse (ticks + 1) = (m.elapse ticks).tick := by
  simp [elapse, tick, Timers.elapse_succ]

/-- The machine after a key went down. -/
def keyDown (m : Machine) (code : UInt8) (generation : UInt64) : Machine :=
  { m with keypad := m.keypad.press code generation }

/-- Whether the release of a key counts, and the machine after it. -/
def keyUp (m : Machine) (code : UInt8) (generation : UInt64) : Bool × Machine :=
  let (released, keypad) := m.keypad.release code generation
  (released, { m with keypad })

end Machine

end Chip8
