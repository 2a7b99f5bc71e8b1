import Chip8.Instruction.Basic
import Chip8.Machine.Basic
import Chip8.Machine.Sprite
import Chip8.Notice

/-!
# Carrying out instructions

`Machine.execute` carries out one decoded instruction on a machine whose
program counter already points past it.  The outcome always has a machine in
it, also where the instruction faults or has to wait for a key, so that it can
be stated what is left unchanged then.

Whatever can fault is checked before anything is changed.  Where a flag goes
with a result, the flag is written last, so that VF holds the flag even if it
is also the register of the result.

## Main definitions

* `Flow`, `Outcome`: what becomes of an instruction
* `Machine.execute`: what each instruction does
-/

namespace Chip8

/-- What becomes of an instruction that does not fault. -/
inductive Flow
  /-- It is done. -/
  | next
  /-- It waits for a key and is to be run again. -/
  | waitForKey
  deriving DecidableEq, Repr

/-- The outcome of an instruction. -/
structure Outcome where
  /-- The machine afterwards. -/
  machine : Machine
  /-- What became of the instruction. -/
  result : Except Fault Flow := .ok .next
  /-- What there is to tell about it. -/
  notices : List Notice := []

namespace Machine

/-- The instruction is done. -/
def done (m : Machine) : Outcome where
  machine := m

/-- The instruction faults. -/
def faulted (m : Machine) (f : Fault) : Outcome where
  machine := m
  result := .error f

/-- The program counter one instruction further. -/
def advance (m : Machine) : Machine :=
  { m with pc := m.pc + 2 }

/-- Where the instruction lies that is being carried out. -/
def site (m : Machine) : UInt16 :=
  m.pc - 2

/-- Skip the next instruction under a condition. -/
def skipIf (m : Machine) (condition : Bool) : Machine :=
  if condition then m.advance else m

/-- Set a register, and then VF to a flag. -/
def setFlagged (m : Machine) (x : Register) (value : UInt8) (flag : Bool) : Machine :=
  (m.setReg x value).setReg 0xF flag.toUInt8

/-- The bit that a shift to the right loses. -/
def lowBit (b : UInt8) : Bool :=
  b.toNat % 2 = 1

/-- The bit that a shift to the left loses. -/
def highBit (b : UInt8) : Bool :=
  128 ≤ b.toNat

/-! ## Calls -/

/-- Call a subroutine. -/
def call (m : Machine) (target : Address) : Outcome :=
  if h : m.depth.val < 16 then
    -- The program counter is already where the subroutine returns to.
    done { m with
      stack := m.stack.set ⟨m.depth.val, h⟩ m.pc
      depth := ⟨m.depth.val + 1, by omega⟩
      pc := UInt16.ofNat target.val }
  else m.faulted .stackOverflow

/-- Return from a subroutine. -/
def ret (m : Machine) : Outcome :=
  if h : 0 < m.depth.val then
    done { m with
      depth := ⟨m.depth.val - 1, by omega⟩
      pc := m.stack.get ⟨m.depth.val - 1, by omega⟩ }
  else m.faulted .stackUnderflow

/-! ## Memory -/

/-- Write bytes where the index register points. -/
def storeBytes (m : Machine) (data : List UInt8) : Outcome :=
  match m.memory.write m.index data with
  | .ok memory => done { m with memory }
  | .error f => m.faulted f

/-- The registers from V0 up to a register. -/
def registersUpTo (m : Machine) (x : Register) : List UInt8 :=
  m.registers.toList.take (x.val + 1)

/-- Set the registers from V0 on. -/
def setRegisters (m : Machine) (values : List UInt8) : Machine :=
  { m with registers := Bank.ofFn fun k => values.getD k.val (m.reg k) }

/-- The three decimal digits of a byte. -/
def decimalDigits (b : UInt8) : List UInt8 :=
  [b / 100, b / 10 % 10, b % 10]

/-- Load the registers from V0 up to a register from where the index register points. -/
def loadRegisters (m : Machine) (x : Register) : Outcome :=
  match m.memory.read m.index (x.val + 1) with
  | .ok values => done (m.setRegisters values)
  | .error f => m.faulted f

/-- Draw the sprite where the index register points. -/
def drawSprite (m : Machine) (x y : Register) (n : Nibble) : Outcome :=
  match m.memory.read m.index n.val with
  | .ok rows =>
    -- The rows are in hand before the first pixel changes, for they may lie in the frame.
    let (memory, collision) := Sprite.draw m.memory (m.reg x).toNat (m.reg y).toNat rows
    done ({ m with memory }.setReg 0xF collision.toUInt8)
  | .error f => m.faulted f

/-! ## The rest of the machine -/

/-- A random byte, masked. -/
def drawRandom (m : Machine) (x : Register) (kk : UInt8) : Machine :=
  let (b, random) := m.random.nextByte
  { m with random }.setReg x (b &&& kk)

/-- The lowest key that is down, if any. -/
def awaitKey (m : Machine) (x : Register) : Outcome :=
  match m.keypad.first? with
  | some k => done (m.setReg x k.code)
  | none => { machine := m, result := .ok .waitForKey }

/-- The machine with the delay timer set. -/
def setDelay (m : Machine) (b : UInt8) : Machine :=
  { m with timers := { m.timers with delay := ⟨b⟩ } }

/-- The machine with the sound timer set. -/
def setSound (m : Machine) (b : UInt8) : Machine :=
  { m with timers := { m.timers with sound := ⟨b⟩ } }

/-- Carry out an instruction; the program counter points past it already. -/
def execute (m : Machine) : Instruction → Outcome
  | .cls => done { m with memory := m.memory.clearFrame }
  | .ret => m.ret
  | .sys target => { machine := m, notices := [.routineIgnored target m.site] }
  | .jp target => done { m with pc := UInt16.ofNat target.val }
  | .call target => m.call target
  | .seByte x kk => done (m.skipIf (m.reg x == kk))
  | .sneByte x kk => done (m.skipIf (m.reg x != kk))
  | .seReg x y => done (m.skipIf (m.reg x == m.reg y))
  | .sneReg x y => done (m.skipIf (m.reg x != m.reg y))
  | .ldByte x kk => done (m.setReg x kk)
  | .addByte x kk => done (m.setReg x (m.reg x + kk))
  | .ldReg x y => done (m.setReg x (m.reg y))
  | .or x y => done (m.setReg x (m.reg x ||| m.reg y))
  | .and x y => done (m.setReg x (m.reg x &&& m.reg y))
  | .xor x y => done (m.setReg x (m.reg x ^^^ m.reg y))
  | .addReg x y =>
    done (m.setFlagged x (m.reg x + m.reg y) (255 < (m.reg x).toNat + (m.reg y).toNat))
  | .sub x y => done (m.setFlagged x (m.reg x - m.reg y) (m.reg y < m.reg x))
  | .subn x y => done (m.setFlagged x (m.reg y - m.reg x) (m.reg x < m.reg y))
  | .shr x _ => done (m.setFlagged x (m.reg x >>> 1) (lowBit (m.reg x)))
  | .shl x _ => done (m.setFlagged x (m.reg x <<< 1) (highBit (m.reg x)))
  | .ldIndex a => done { m with index := UInt16.ofNat a.val }
  | .jpV0 a => done { m with pc := UInt16.ofNat ((m.reg 0).toNat + a.val) }
  | .rnd x kk => done (m.drawRandom x kk)
  | .drw x y n => m.drawSprite x y n
  | .skp x => done (m.skipIf (m.keypad.isPressed (m.reg x)))
  | .sknp x => done (m.skipIf (!m.keypad.isPressed (m.reg x)))
  | .ldFromDelay x => done (m.setReg x m.timers.delay.value)
  | .ldKey x => m.awaitKey x
  | .ldDelay x => done (m.setDelay (m.reg x))
  | .ldSound x => done (m.setSound (m.reg x))
  | .addIndex x => done { m with index := m.index + (m.reg x).toUInt16 }
  | .ldGlyph x => done { m with index := Memory.glyphAddress (m.reg x) }
  | .ldDecimal x => m.storeBytes (decimalDigits (m.reg x))
  | .store x => m.storeBytes (m.registersUpTo x)
  | .load x => m.loadRegisters x
  | .unknown w => { machine := m, notices := [.unsupported w m.site] }

end Machine

end Chip8
