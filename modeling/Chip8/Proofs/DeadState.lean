import Chip8.Proofs.Control
import Mathlib.Data.List.Forall2

/-!
# Dead state

Some of what a machine remembers can never be asked for: the sound timer, which
programs set but cannot read; the places on the stack that are not in use, which
a call fills before any return looks at them; and the generation of a key that
is not down, which a press replaces before any release is compared with it.

Machines that agree on everything else are similar.  Whatever is done with both
of two similar machines, they give the same answers and stay similar, so none of
this state has any influence on a run.

## Main definitions

* `Keypad.Similar`, `Machine.Similar`: agreement on all that is not dead
* `Machine.withDead`: a machine with other dead state
* `Machine.trace`: the machine and the answer after each operation of a run

## Main results

* `exists_withDead`: similar machines differ in dead state only
* `similar_execute`, `similar_perform`: instructions and operations do not look
  at dead state
* `similar_trace`: neither do runs
-/

namespace Chip8

/-! ## Keypads -/

namespace Keypad

/-- The same keys are down, and those that are were pressed in the same generation. -/
structure Similar (p q : Keypad) : Prop where
  mask_eq : p.mask = q.mask
  generation_eq : ∀ k, p.isDown k = true → (p.keys.get k).generation = (q.keys.get k).generation

variable {p q : Keypad}

theorem Similar.isDown_eq (h : p.Similar q) (k : Key) : p.isDown k = q.isDown k :=
  mask_eq_iff.mp h.mask_eq k

theorem Similar.isPressed_eq (h : p.Similar q) (code : UInt8) :
    p.isPressed code = q.isPressed code := by
  unfold isPressed
  split
  · exact h.isDown_eq _
  · rfl

theorem Similar.first?_eq (h : p.Similar q) : p.first? = q.first? := by
  have hdown : (fun k => p.isDown k) = fun k => q.isDown k := funext h.isDown_eq
  rw [first?, first?, hdown]

/-- Only the generation of a key that is down decides whether a release counts. -/
theorem Similar.accepts_eq (h : p.Similar q) (code : UInt8) (generation : UInt64) :
    p.accepts code generation = q.accepts code generation := by
  unfold accepts
  rw [← h.isDown_eq]
  cases hdown : p.isDown (Key.ofCode code) with
  | false => rfl
  | true => rw [h.generation_eq _ hdown]

/-- Keypads that were similar are so again if the state of one key is replaced in both. -/
theorem Similar.set (h : p.Similar q) (k : Key) (s : KeyState) :
    (⟨p.keys.set k s⟩ : Keypad).Similar ⟨q.keys.set k s⟩ := by
  -- The replaced key is the same in both, whatever it was; the others are as they were.
  have hget : ∀ j, j ≠ k →
      (p.keys.set k s).get j = p.keys.get j ∧ (q.keys.set k s).get j = q.keys.get j := by
    intro j hj
    rw [Bank.get_set, Bank.get_set, if_neg hj, if_neg hj]
    exact ⟨rfl, rfl⟩
  have hset : (p.keys.set k s).get k = (q.keys.set k s).get k := by
    rw [Bank.get_set, Bank.get_set, if_pos rfl, if_pos rfl]
  constructor
  · rw [mask_eq_iff]
    intro j
    by_cases hj : j = k
    · rw [hj]
      exact congrArg KeyState.pressed hset
    · obtain ⟨hp, hq⟩ := hget j hj
      have hdown := h.isDown_eq j
      rw [isDown, ← hp, isDown, ← hq] at hdown
      exact hdown
  · intro j hdown
    by_cases hj : j = k
    · rw [hj]
      exact congrArg KeyState.generation hset
    · obtain ⟨hp, hq⟩ := hget j hj
      rw [isDown, hp] at hdown
      rw [hp, hq]
      exact h.generation_eq j hdown

theorem Similar.press (h : p.Similar q) (code : UInt8) (generation : UInt64) :
    (p.press code generation).Similar (q.press code generation) :=
  h.set _ _

theorem Similar.release (h : p.Similar q) (code : UInt8) (generation : UInt64) :
    (p.release code generation).1 = (q.release code generation).1 ∧
      (p.release code generation).2.Similar (q.release code generation).2 := by
  unfold Keypad.release
  rw [← h.accepts_eq]
  split
  · exact ⟨rfl, h.set _ _⟩
  · exact ⟨rfl, h⟩

end Keypad

/-! ## Machines -/

namespace Machine

/-- Agreement on everything but the sound timer, the places on the stack that are not in use, and
the generations of the keys that are not down. -/
structure Similar (m m' : Machine) : Prop where
  memory_eq : m.memory = m'.memory
  registers_eq : m.registers = m'.registers
  index_eq : m.index = m'.index
  pc_eq : m.pc = m'.pc
  depth_eq : m.depth = m'.depth
  /-- The places in use. -/
  places_eq : m.stack.toList.take m.depth.val = m'.stack.toList.take m'.depth.val
  delay_eq : m.timers.delay = m'.timers.delay
  keypad : m.keypad.Similar m'.keypad
  random_eq : m.random = m'.random

/-- The machine with other dead state. -/
def withDead (m : Machine) (stack : Bank UInt16) (sound : Countdown) (keypad : Keypad) : Machine :=
  { m with stack, timers := { m.timers with sound }, keypad }

variable {m m' : Machine}

theorem similar_withDead {stack : Bank UInt16} {keypad : Keypad}
    (hplaces : m.pending = stack.toList.take m.depth.val) (hkeys : m.keypad.Similar keypad)
    (sound : Countdown) : m.Similar (m.withDead stack sound keypad) :=
  ⟨rfl, rfl, rfl, rfl, rfl, hplaces, rfl, hkeys, rfl⟩

/-- Similar machines differ in dead state only. -/
theorem exists_withDead (h : m.Similar m') :
    ∃ stack sound keypad, m' = m.withDead stack sound keypad ∧
      m.pending = stack.toList.take m.depth.val ∧ m.keypad.Similar keypad := by
  obtain ⟨memory, registers, index, pc, stack, depth, ⟨delay, sound⟩, keypad, random⟩ := m
  obtain ⟨memory', registers', index', pc', stack', depth', ⟨delay', sound'⟩, keypad', random'⟩ := m'
  obtain ⟨hmemory, hregisters, hindex, hpc, hdepth, hplaces, hdelay, hkeys, hrandom⟩ := h
  dsimp only at hmemory hregisters hindex hpc hdepth hplaces hdelay hkeys hrandom
  subst hmemory hregisters hindex hpc hdepth hdelay hrandom
  exact ⟨stack', sound', keypad', rfl, hplaces, hkeys⟩

theorem Similar.pending_eq (h : m.Similar m') : m.pending = m'.pending :=
  h.places_eq

end Machine

/-- Outcomes with similar machines and the same result and notices. -/
structure Outcome.Similar (o o' : Outcome) : Prop where
  machine : o.machine.Similar o'.machine
  result_eq : o.result = o'.result
  notices_eq : o.notices = o'.notices

theorem Outcome.Similar.settle {o o' : Outcome} (h : o.Similar o') (pc : UInt16) :
    (o.settle pc).Similar (o'.settle pc) := by
  obtain ⟨hmemory, hregisters, hindex, -, hdepth, hplaces, hdelay, hkeys, hrandom⟩ := h.machine
  have hback : ({ o.machine with pc } : Machine).Similar { o'.machine with pc } :=
    ⟨hmemory, hregisters, hindex, rfl, hdepth, hplaces, hdelay, hkeys, hrandom⟩
  unfold Outcome.settle
  rw [← h.result_eq]
  split
  · exact h
  · exact ⟨hback, rfl, h.notices_eq⟩
  · exact ⟨hback, rfl, h.notices_eq⟩

namespace Machine

variable {m m' : Machine}

theorem Similar.done (h : m.Similar m') : m.done.Similar m'.done :=
  ⟨h, rfl, rfl⟩

theorem Similar.faulted (h : m.Similar m') (f : Fault) : (m.faulted f).Similar (m'.faulted f) :=
  ⟨h, rfl, rfl⟩

/-! ### Handlers -/

theorem Similar.advance (h : m.Similar m') : m.advance.Similar m'.advance := by
  obtain ⟨stack, sound, keypad, rfl, hplaces, hkeys⟩ := exists_withDead h
  exact similar_withDead (m := m.advance) hplaces hkeys sound

theorem Similar.withMemory (h : m.Similar m') (memory : Memory) :
    ({ m with memory } : Machine).Similar { m' with memory } := by
  obtain ⟨stack, sound, keypad, rfl, hplaces, hkeys⟩ := exists_withDead h
  exact similar_withDead (m := { m with memory }) hplaces hkeys sound

theorem Similar.withRegisters (h : m.Similar m') (registers : Bank UInt8) :
    ({ m with registers } : Machine).Similar { m' with registers } := by
  obtain ⟨stack, sound, keypad, rfl, hplaces, hkeys⟩ := exists_withDead h
  exact similar_withDead (m := { m with registers }) hplaces hkeys sound

theorem Similar.reg_eq (h : m.Similar m') (x : Register) : m.reg x = m'.reg x :=
  congrArg (Bank.get · x) h.registers_eq

theorem Similar.setReg (h : m.Similar m') (x : Register) (b : UInt8) :
    (m.setReg x b).Similar (m'.setReg x b) := by
  unfold Machine.setReg
  rw [← h.registers_eq]
  exact h.withRegisters _

/-- Skips under the same condition. -/
theorem Similar.skip (h : m.Similar m') {condition condition' : Bool}
    (hc : condition = condition') :
    (m.skipIf condition).done.Similar (m'.skipIf condition').done := by
  subst hc
  cases condition with
  | false => exact h.done
  | true => exact h.advance.done

/-- A call fills a place before it comes into use. -/
theorem Similar.call (h : m.Similar m') (target : Address) :
    (m.call target).Similar (m'.call target) := by
  by_cases hroom : m.depth.val < 16
  · have hroom' : m'.depth.val < 16 := h.depth_eq ▸ hroom
    -- What the place held before is gone when it comes into use.
    have hpending : (m.call target).machine.pending = (m'.call target).machine.pending := by
      rw [pending_call hroom, pending_call hroom', h.pending_eq, h.pc_eq]
    rw [Machine.call, dif_pos hroom, Machine.call, dif_pos hroom'] at hpending ⊢
    refine ⟨⟨h.memory_eq, h.registers_eq, h.index_eq, rfl, ?_, hpending, h.delay_eq, h.keypad,
      h.random_eq⟩, rfl, rfl⟩
    exact Fin.ext (congrArg (·.val + 1) h.depth_eq)
  · have hroom' : ¬ m'.depth.val < 16 := h.depth_eq ▸ hroom
    rw [Machine.call, dif_neg hroom, Machine.call, dif_neg hroom']
    exact h.faulted _

/-- A return goes to a place in use. -/
theorem Similar.ret (h : m.Similar m') : m.ret.Similar m'.ret := by
  by_cases hsome : 0 < m.depth.val
  · have hsome' : 0 < m'.depth.val := h.depth_eq ▸ hsome
    -- The two lists in use are equal, so their last elements are, and what is before them.
    have hpending : m.ret.machine.pending ++ [m.ret.machine.pc] =
        m'.ret.machine.pending ++ [m'.ret.machine.pc] := by
      rw [← pending_ret hsome, ← pending_ret hsome', h.pending_eq]
    obtain ⟨hplaces, hpc⟩ := List.append_inj' hpending rfl
    rw [Machine.ret, dif_pos hsome, Machine.ret, dif_pos hsome'] at hplaces hpc ⊢
    refine ⟨⟨h.memory_eq, h.registers_eq, h.index_eq, List.singleton_inj.mp hpc, ?_, hplaces,
      h.delay_eq, h.keypad, h.random_eq⟩, rfl, rfl⟩
    exact Fin.ext (congrArg (·.val - 1) h.depth_eq)
  · have hsome' : ¬ 0 < m'.depth.val := h.depth_eq ▸ hsome
    rw [Machine.ret, dif_neg hsome, Machine.ret, dif_neg hsome']
    exact h.faulted _

theorem Similar.read_eq (h : m.Similar m') (len : Nat) :
    m'.memory.read m'.index len = m.memory.read m.index len := by
  rw [h.memory_eq, h.index_eq]

theorem Similar.storeBytes (h : m.Similar m') (data : List UInt8) :
    (m.storeBytes data).Similar (m'.storeBytes data) := by
  have hwrite : m'.memory.write m'.index data = m.memory.write m.index data := by
    rw [h.memory_eq, h.index_eq]
  unfold Machine.storeBytes
  rw [hwrite]
  cases m.memory.write m.index data with
  | ok memory => exact (h.withMemory memory).done
  | error f => exact h.faulted f

theorem Similar.loadRegisters (h : m.Similar m') (x : Register) :
    (m.loadRegisters x).Similar (m'.loadRegisters x) := by
  unfold Machine.loadRegisters
  rw [h.read_eq]
  cases m.memory.read m.index (x.val + 1) with
  | ok values =>
    have hregisters : m'.setRegisters values =
        { m' with registers := (m.setRegisters values).registers } := by
      unfold setRegisters reg
      rw [h.registers_eq]
    show (m.setRegisters values).done.Similar (m'.setRegisters values).done
    rw [hregisters]
    exact (h.withRegisters _).done
  | error f => exact h.faulted f

theorem Similar.drawSprite (h : m.Similar m') (x y : Register) (n : Nibble) :
    (m.drawSprite x y n).Similar (m'.drawSprite x y n) := by
  unfold Machine.drawSprite
  rw [h.read_eq]
  cases m.memory.read m.index n.val with
  | ok rows =>
    have hdrawn : Sprite.draw m'.memory (m'.reg x).toNat (m'.reg y).toNat rows =
        Sprite.draw m.memory (m.reg x).toNat (m.reg y).toNat rows := by
      rw [h.memory_eq, h.reg_eq x, h.reg_eq y]
    dsimp only
    rw [hdrawn]
    exact ((h.withMemory _).setReg 0xF _).done
  | error f => exact h.faulted f

theorem Similar.awaitKey (h : m.Similar m') (x : Register) :
    (m.awaitKey x).Similar (m'.awaitKey x) := by
  unfold Machine.awaitKey
  rw [← h.keypad.first?_eq]
  cases m.keypad.first? with
  | some k => exact (h.setReg x k.code).done
  | none => exact ⟨h, rfl, rfl⟩

/-! ### Instructions -/

/-- **Instructions do not look at dead state.** -/
theorem similar_execute (h : m.Similar m') (i : Instruction) :
    (m.execute i).Similar (m'.execute i) := by
  cases i with
  | cls =>
    show Outcome.Similar _ ({ m' with memory := m'.memory.clearFrame } : Machine).done
    rw [← h.memory_eq]
    exact (h.withMemory m.memory.clearFrame).done
  | call target => exact h.call target
  | ret => exact h.ret
  | seByte x kk => exact h.skip (by rw [h.reg_eq])
  | sneByte x kk => exact h.skip (by rw [h.reg_eq])
  | seReg x y => exact h.skip (by rw [h.reg_eq, h.reg_eq])
  | sneReg x y => exact h.skip (by rw [h.reg_eq, h.reg_eq])
  | skp x => exact h.skip (by rw [h.reg_eq, h.keypad.isPressed_eq])
  | sknp x => exact h.skip (by rw [h.reg_eq, h.keypad.isPressed_eq])
  | drw x y n => exact h.drawSprite x y n
  | ldKey x => exact h.awaitKey x
  | ldDecimal x =>
    show Outcome.Similar _ (m'.storeBytes (decimalDigits (m'.reg x)))
    rw [← h.reg_eq]
    exact h.storeBytes _
  | store x =>
    show Outcome.Similar _ (m'.storeBytes (m'.registers.toList.take (x.val + 1)))
    rw [← h.registers_eq]
    exact h.storeBytes _
  | load x => exact h.loadRegisters x
  | _ =>
    -- All others do the same to both, and nothing to what is dead but to set the sound timer.
    obtain ⟨stack, sound, keypad, rfl, hplaces, hkeys⟩ := exists_withDead h
    exact ⟨⟨rfl, rfl, rfl, rfl, rfl, hplaces, rfl, hkeys, rfl⟩, rfl, rfl⟩

theorem similar_step (h : m.Similar m') : m.step.Similar m'.step := by
  have hfetch : m'.fetch = m.fetch := by
    rw [fetch, fetch, h.memory_eq, h.pc_eq]
  cases hw : m.fetch with
  | error f =>
    rw [step_of_error hw, step_of_error (hfetch.trans hw)]
    exact h.faulted f
  | ok w =>
    rw [step_of_word hw, step_of_word (hfetch.trans hw), ← h.pc_eq]
    exact (similar_execute h.advance _).settle m.pc

/-! ### Operations and runs -/

theorem similar_performLoad (h : m.Similar m') (image : Image) :
    (m.performLoad image).2 = (m'.performLoad image).2 ∧
      (m.performLoad image).1.Similar (m'.performLoad image).1 := by
  have hload : m'.memory.load image = m.memory.load image := by rw [h.memory_eq]
  unfold performLoad load
  rw [hload]
  cases m.memory.load image with
  | ok memory => exact ⟨rfl, h.withMemory memory⟩
  | error e => exact ⟨rfl, h⟩

/-- **Operations do not look at dead state**: they give the same answer, and similar machines stay
similar. -/
theorem similar_perform (h : m.Similar m') (op : Operation) :
    (m.perform op).2 = (m'.perform op).2 ∧ (m.perform op).1.Similar (m'.perform op).1 := by
  cases op with
  | load image => exact similar_performLoad h image
  | step =>
    obtain ⟨hmachine, hresult, hnotices⟩ := similar_step h
    exact ⟨congrArg₂ Answer.stepped hresult hnotices, hmachine⟩
  | tick =>
    obtain ⟨stack, sound, keypad, rfl, hplaces, hkeys⟩ := exists_withDead h
    exact ⟨rfl, similar_withDead (m := m.tick) hplaces hkeys sound.tick⟩
  | keyDown code generation =>
    obtain ⟨stack, sound, keypad, rfl, hplaces, hkeys⟩ := exists_withDead h
    have hpressed := hkeys.press code generation
    exact ⟨rfl, similar_withDead (m := m.keyDown code generation) hplaces hpressed sound⟩
  | keyUp code generation =>
    obtain ⟨stack, sound, keypad, rfl, hplaces, hkeys⟩ := exists_withDead h
    obtain ⟨hcounts, hreleased⟩ := hkeys.release code generation
    refine ⟨congrArg Answer.released hcounts, ?_⟩
    exact similar_withDead (m := (m.keyUp code generation).2) hplaces hreleased sound

/-- The machine and the answer after each operation of a run. -/
def trace (m : Machine) : List Operation → List (Machine × Answer)
  | [] => []
  | op :: rest => m.perform op :: (m.perform op).1.trace rest

/-- **Dead state never influences a run.**  If the same is done with two similar machines, every
operation gives the same answer on both, and the machines are similar again after each. -/
theorem similar_trace (h : m.Similar m') (run : List Operation) :
    List.Forall₂ (fun after after' => after.2 = after'.2 ∧ after.1.Similar after'.1)
      (m.trace run) (m'.trace run) := by
  induction run generalizing m m' with
  | nil => exact .nil
  | cons op rest ih =>
    have hop := similar_perform h op
    exact .cons hop (ih hop.2)

/-- A machine in a subroutine, with a key held down. -/
def inSubroutine : Machine :=
  { fresh 0 with depth := ⟨1, by decide⟩, keypad := Keypad.fresh.press 0x3 9 }

/-- The same machine with other values wherever nothing can ask for them. -/
def inSubroutineAgain : Machine :=
  inSubroutine.withDead ((Bank.replicate 0x999).set 0 0) ⟨7⟩
    ⟨(Bank.replicate ⟨false, 5⟩).set 0x3 ⟨true, 9⟩⟩

/-- A key is released, pressed and released again in its old generation, and a call fills a place
that the next return looks at. -/
def revivingRun : List Operation :=
  [.keyUp 0x4 5, .keyDown 0x4 6, .keyUp 0x4 5, .tick, .load { bytes := [0x22, 0x02, 0x00, 0xEE] },
    .step, .step]

/-- What was dead and comes into use again was replaced before. -/
theorem similar_revivingRun :
    inSubroutine.Similar inSubroutineAgain ∧ inSubroutine ≠ inSubroutineAgain ∧
      List.Forall₂ (fun after after' => after.2 = after'.2 ∧ after.1.Similar after'.1)
        (inSubroutine.trace revivingRun) (inSubroutineAgain.trace revivingRun) := by
  have h : inSubroutine.Similar inSubroutineAgain :=
    similar_withDead (by decide) ⟨by decide, by decide⟩ _
  have hne : inSubroutine ≠ inSubroutineAgain := by
    intro heq
    exact absurd (congrArg (fun m : Machine => m.timers.sound) heq) (by decide)
  exact ⟨h, hne, similar_trace h _⟩

end Machine

end Chip8
