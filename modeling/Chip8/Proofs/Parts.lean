import Chip8.Machine.Step

/-!
# The parts of a machine

A machine has nine parts, and an instruction changes two of them at most.  Which
these are is told by the instruction alone, and not by the machine.  So what an
instruction leaves alone needs no look at what it does: it is enough that a part
is not on its list.

## Main definitions

* `Part`, `Part.Same`: the parts of a machine
* `Instruction.parts`: those that an instruction may change
* `Machine.OnlyIn`: machines that differ in some parts only

## Main results

* `execute_onlyIn`: instructions change no parts but their own
* `step_same`: steps change no parts but those of their instruction
-/

namespace Chip8

/-- The parts of a machine. -/
inductive Part
  | memory | registers | index | pc | stack | delay | sound | keypad | random
  deriving DecidableEq, Repr

namespace Part

/-- Two machines agree in a part. -/
def Same (m after : Machine) : Part → Prop
  | memory => after.memory = m.memory
  | registers => after.registers = m.registers
  | index => after.index = m.index
  | pc => after.pc = m.pc
  | stack => (after.stack, after.depth) = (m.stack, m.depth)
  | delay => after.timers.delay = m.timers.delay
  | sound => after.timers.sound = m.timers.sound
  | keypad => after.keypad = m.keypad
  | random => after.random = m.random

theorem Same.trans {p : Part} {m next after : Machine} (h : p.Same m next)
    (h' : p.Same next after) : p.Same m after := by
  cases p with
  | _ => exact Eq.trans h' h

end Part

/-- The parts that an instruction may change. -/
def Instruction.parts : Instruction → List Part
  | .sys _ | .unknown _ => []
  | .cls | .ldDecimal _ | .store _ => [.memory]
  | .ret | .call _ => [.stack, .pc]
  | .jp _ | .jpV0 _ | .seByte _ _ | .sneByte _ _ | .seReg _ _ | .sneReg _ _ | .skp _ | .sknp _ =>
    [.pc]
  | .ldIndex _ | .addIndex _ | .ldGlyph _ => [.index]
  | .rnd _ _ => [.random, .registers]
  | .drw _ _ _ => [.memory, .registers]
  | .ldDelay _ => [.delay]
  | .ldSound _ => [.sound]
  | .ldByte _ _ | .addByte _ _ | .ldReg _ _ | .or _ _ | .and _ _ | .xor _ _ | .addReg _ _
  | .sub _ _ | .subn _ _ | .shr _ _ | .shl _ _ | .ldFromDelay _ | .ldKey _ | .load _ =>
    [.registers]

namespace Machine

/-- Machines that differ in some parts only. -/
def OnlyIn (parts : List Part) (m after : Machine) : Prop :=
  ∀ p, p ∉ parts → p.Same m after

theorem OnlyIn.refl (parts : List Part) (m : Machine) : OnlyIn parts m m := by
  intro p _
  cases p with
  | _ => rfl

section Updates

variable (m : Machine)

theorem onlyIn_memory (memory : Memory) : OnlyIn [.memory] m { m with memory } := by
  intro p hp
  cases p with
  | memory => exact absurd List.mem_cons_self hp
  | _ => rfl

theorem onlyIn_registers (registers : Bank UInt8) :
    OnlyIn [.registers] m { m with registers } := by
  intro p hp
  cases p with
  | registers => exact absurd List.mem_cons_self hp
  | _ => rfl

theorem onlyIn_index (index : UInt16) : OnlyIn [.index] m { m with index } := by
  intro p hp
  cases p with
  | index => exact absurd List.mem_cons_self hp
  | _ => rfl

theorem onlyIn_pc (pc : UInt16) : OnlyIn [.pc] m { m with pc } := by
  intro p hp
  cases p with
  | pc => exact absurd List.mem_cons_self hp
  | _ => rfl

theorem setDelay_onlyIn (b : UInt8) : OnlyIn [.delay] m (m.setDelay b) := by
  intro p hp
  cases p with
  | delay => exact absurd List.mem_cons_self hp
  | _ => rfl

theorem setSound_onlyIn (b : UInt8) : OnlyIn [.sound] m (m.setSound b) := by
  intro p hp
  cases p with
  | sound => exact absurd List.mem_cons_self hp
  | _ => rfl

theorem drawRandom_onlyIn (x : Register) (kk : UInt8) :
    OnlyIn [.random, .registers] m (m.drawRandom x kk) := by
  intro p hp
  cases p with
  | random | registers => exact absurd (by decide) hp
  | _ => rfl

theorem skipIf_onlyIn (condition : Bool) : OnlyIn [.pc] m (m.skipIf condition) := by
  cases condition with
  | false => exact .refl _ m
  | true => exact onlyIn_pc m _

-- Handlers that look before they write change nothing at all where they fault.
theorem call_onlyIn (target : Address) : OnlyIn [.stack, .pc] m (m.call target).machine := by
  unfold call
  split
  · intro p hp
    cases p with
    | stack | pc => exact absurd (by decide) hp
    | _ => rfl
  · exact .refl _ m

theorem ret_onlyIn : OnlyIn [.stack, .pc] m m.ret.machine := by
  unfold ret
  split
  · intro p hp
    cases p with
    | stack | pc => exact absurd (by decide) hp
    | _ => rfl
  · exact .refl _ m

theorem storeBytes_onlyIn (data : List UInt8) : OnlyIn [.memory] m (m.storeBytes data).machine := by
  unfold storeBytes
  split
  · exact onlyIn_memory m _
  · exact .refl _ m

theorem loadRegisters_onlyIn (x : Register) :
    OnlyIn [.registers] m (m.loadRegisters x).machine := by
  unfold loadRegisters
  split
  · exact onlyIn_registers m _
  · exact .refl _ m

theorem drawSprite_onlyIn (x y : Register) (n : Nibble) :
    OnlyIn [.memory, .registers] m (m.drawSprite x y n).machine := by
  unfold drawSprite
  split
  · intro p hp
    cases p with
    | memory | registers => exact absurd (by decide) hp
    | _ => rfl
  · exact .refl _ m

theorem awaitKey_onlyIn (x : Register) : OnlyIn [.registers] m (m.awaitKey x).machine := by
  unfold awaitKey
  split
  · exact onlyIn_registers m _
  · exact .refl _ m

end Updates

/-- **Instructions change no parts but their own.** -/
theorem execute_onlyIn (m : Machine) (i : Instruction) : OnlyIn i.parts m (m.execute i).machine := by
  cases i with
  | sys | unknown => exact .refl _ m
  | cls => exact onlyIn_memory m _
  | ret => exact ret_onlyIn m
  | call target => exact call_onlyIn m target
  | jp | jpV0 => exact onlyIn_pc m _
  | seByte | sneByte | seReg | sneReg | skp | sknp => exact skipIf_onlyIn m _
  | ldIndex | addIndex | ldGlyph => exact onlyIn_index m _
  | rnd x kk => exact drawRandom_onlyIn m x kk
  | drw x y n => exact drawSprite_onlyIn m x y n
  | ldKey x => exact awaitKey_onlyIn m x
  | ldDelay x => exact setDelay_onlyIn m _
  | ldSound x => exact setSound_onlyIn m _
  | ldDecimal | store => exact storeBytes_onlyIn m _
  | load x => exact loadRegisters_onlyIn m x
  | _ => exact onlyIn_registers m _

theorem reg_execute_of_not_mem (m : Machine) {i : Instruction} (h : .registers ∉ i.parts)
    (j : Register) : (m.execute i).machine.reg j = m.reg j := by
  have hsame : (m.execute i).machine.registers = m.registers := execute_onlyIn m i .registers h
  rw [reg, hsame, reg]

theorem pc_execute_of_not_mem (m : Machine) {i : Instruction} (h : .pc ∉ i.parts) :
    (m.execute i).machine.pc = m.pc :=
  execute_onlyIn m i .pc h

theorem pending_execute_of_not_mem (m : Machine) {i : Instruction} (h : .stack ∉ i.parts) :
    (m.execute i).machine.pending = m.pending := by
  obtain ⟨hstack, hdepth⟩ := Prod.mk.inj (execute_onlyIn m i .stack h)
  rw [pending, hstack, hdepth, pending]

/-! ## Steps -/

/-- Settling an instruction moves at most the program counter. -/
theorem settle_onlyIn (o : Outcome) (pc : UInt16) :
    OnlyIn [.pc] o.machine (o.settle pc).machine := by
  unfold Outcome.settle
  split
  · exact .refl _ o.machine
  · exact onlyIn_pc o.machine pc
  · exact onlyIn_pc o.machine pc

/-- **Steps change no parts but those of their instruction**, and the program counter. -/
theorem step_same (m : Machine) {p : Part} (hpc : p ≠ .pc)
    (h : ∀ w, m.fetch = .ok w → p ∉ (Instruction.decode w).parts) : p.Same m m.step.machine := by
  have hmoved : p ∉ [Part.pc] := fun hmem => hpc (List.mem_singleton.mp hmem)
  unfold step
  cases hw : m.fetch with
  | error f => exact OnlyIn.refl [] m p List.not_mem_nil
  | ok w =>
    -- The program counter moves before the instruction, and may be put back after it.
    have hadvance : p.Same m m.advance := onlyIn_pc m (m.pc + 2) p hmoved
    have hexecute := execute_onlyIn m.advance (Instruction.decode w) p (h w hw)
    exact hadvance.trans (hexecute.trans (settle_onlyIn _ m.pc p hmoved))

theorem keypad_step (m : Machine) : m.step.machine.keypad = m.keypad := by
  refine step_same m (p := .keypad) nofun fun w _ => ?_
  -- No instruction has the keypad among its parts.
  cases Instruction.decode w with
  | _ => nofun

end Machine

end Chip8
