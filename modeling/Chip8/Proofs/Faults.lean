import Chip8.Proofs.Operations

/-!
# Faults and waits

Whether an instruction faults, and how, is decided by the instruction itself,
the depth of the stack and the index register; whether it waits is decided by
the keypad.  Together with the word at the program counter, that is all the
result of a step depends on.

A step that is not done has left no trace.  Handlers look before they write,
and the program counter, which moved on before the instruction ran, is put
back.

## Main definitions

* `Machine.faultOf?`, `Machine.flowOf`: how an instruction ends
* `Machine.fault?`: the fault that the next step runs into
* `Outcome.Keeps`: an outcome that is not done is the machine it came from

## Main results

* `execute_result`, `step_result`: how instructions and steps end
* `step_error_iff`: a step faults exactly if `fault?` says so
* `step_of_next`: a step that is done carried out an instruction
* `step_machine_of_not_next`: a step that faults or waits changes nothing
-/

namespace Chip8

/-! ## How instructions end -/

namespace Machine

/-- The fault of accessing so many bytes from where the index register points on. -/
def windowFault? (m : Machine) (len : Nat) : Option Fault :=
  if m.index.toNat + len ≤ Memory.size then none else some (.addressOutOfBounds m.index len)

/-- The fault that an instruction runs into. -/
def faultOf? (m : Machine) : Instruction → Option Fault
  | .call _ => if m.depth.val < 16 then none else some .stackOverflow
  | .ret => if 0 < m.depth.val then none else some .stackUnderflow
  | .drw _ _ n => m.windowFault? n.val
  | .ldDecimal _ => m.windowFault? 3
  | .store x | .load x => m.windowFault? (x.val + 1)
  | _ => none

/-- What becomes of an instruction that does not fault. -/
def flowOf (m : Machine) : Instruction → Flow
  | .ldKey _ => if m.keypad.first?.isSome then .next else .waitForKey
  | _ => .next

/-- How an instruction ends. -/
def resultOf (m : Machine) (i : Instruction) : Except Fault Flow :=
  match m.faultOf? i with
  | some f => .error f
  | none => .ok (m.flowOf i)

theorem call_result (m : Machine) (target : Address) :
    (m.call target).result = if m.depth.val < 16 then .ok .next else .error .stackOverflow := by
  unfold call
  split
  · rfl
  · rfl

theorem ret_result (m : Machine) :
    m.ret.result = if 0 < m.depth.val then .ok .next else .error .stackUnderflow := by
  unfold ret
  split
  · rfl
  · rfl

theorem storeBytes_result (m : Machine) (data : List UInt8) :
    (m.storeBytes data).result =
      if m.index.toNat + data.length ≤ Memory.size then .ok .next
      else .error (.addressOutOfBounds m.index data.length) := by
  unfold storeBytes Memory.write
  by_cases h : m.index.toNat + data.length ≤ Memory.size
  · simp only [h, if_true, done]
  · simp only [h, if_false, faulted]

theorem loadRegisters_result (m : Machine) (x : Register) :
    (m.loadRegisters x).result =
      if m.index.toNat + (x.val + 1) ≤ Memory.size then .ok .next
      else .error (.addressOutOfBounds m.index (x.val + 1)) := by
  unfold loadRegisters Memory.read
  by_cases h : m.index.toNat + (x.val + 1) ≤ Memory.size
  · simp only [h, if_true, done]
  · simp only [h, if_false, faulted]

theorem drawSprite_result (m : Machine) (x y : Register) (n : Nibble) :
    (m.drawSprite x y n).result =
      if m.index.toNat + n.val ≤ Memory.size then .ok .next
      else .error (.addressOutOfBounds m.index n.val) := by
  unfold drawSprite Memory.read
  by_cases h : m.index.toNat + n.val ≤ Memory.size
  · simp only [h, if_true, done]
  · simp only [h, if_false, faulted]

theorem awaitKey_result (m : Machine) (x : Register) :
    (m.awaitKey x).result =
      .ok (if m.keypad.first?.isSome then .next else .waitForKey) := by
  unfold awaitKey
  cases m.keypad.first? with
  | none => rfl
  | some k => rfl

@[simp] theorem length_registersUpTo (m : Machine) (x : Register) :
    (m.registersUpTo x).length = x.val + 1 := by
  have h := x.isLt
  rw [registersUpTo, List.length_take, Bank.length_toList]
  omega

theorem resultOf_of_none {m : Machine} {i : Instruction} (h : m.faultOf? i = none) :
    m.resultOf i = .ok (m.flowOf i) := by
  rw [resultOf, h]

theorem resultOf_of_some {m : Machine} {i : Instruction} {f : Fault} (h : m.faultOf? i = some f) :
    m.resultOf i = .error f := by
  rw [resultOf, h]

/-- An instruction that looks before it writes ends as its check says. -/
theorem resultOf_of_check {m : Machine} {i : Instruction} {c : Prop} [Decidable c] {f : Fault}
    (hf : m.faultOf? i = if c then none else some f) (hflow : m.flowOf i = .next) :
    m.resultOf i = if c then .ok .next else .error f := by
  by_cases h : c
  · rw [if_pos h] at hf ⊢
    rw [resultOf_of_none hf, hflow]
  · rw [if_neg h] at hf ⊢
    rw [resultOf_of_some hf]

/-- **How an instruction ends** is what `resultOf` says. -/
theorem execute_result (m : Machine) (i : Instruction) :
    (m.execute i).result = m.resultOf i := by
  -- Only the handlers that look before they write have more than one way to end.
  cases i with
  | ret => exact (ret_result m).trans (resultOf_of_check rfl rfl).symm
  | call target => exact (call_result m target).trans (resultOf_of_check rfl rfl).symm
  | drw x y n => exact (drawSprite_result m x y n).trans (resultOf_of_check rfl rfl).symm
  | ldDecimal x => exact (storeBytes_result m _).trans (resultOf_of_check rfl rfl).symm
  | store x =>
    have h := storeBytes_result m (m.registersUpTo x)
    rw [length_registersUpTo] at h
    exact h.trans (resultOf_of_check rfl rfl).symm
  | load x => exact (loadRegisters_result m x).trans (resultOf_of_check rfl rfl).symm
  | ldKey x => exact awaitKey_result m x
  | _ => rfl

end Machine

/-! ## How steps end -/

/-- Settling moves at most the program counter. -/
theorem Outcome.settle_eq (o : Outcome) (pc : UInt16) :
    ∃ pc', o.settle pc = { o with machine := { o.machine with pc := pc' } } := by
  unfold Outcome.settle
  split
  · exact ⟨o.machine.pc, rfl⟩
  · exact ⟨pc, rfl⟩
  · exact ⟨pc, rfl⟩

theorem Outcome.settle_result (o : Outcome) (pc : UInt16) : (o.settle pc).result = o.result := by
  obtain ⟨pc', h⟩ := o.settle_eq pc
  rw [h]

namespace Machine

/-- The program counter has no say in how an instruction ends. -/
theorem resultOf_advance (m : Machine) (i : Instruction) : m.advance.resultOf i = m.resultOf i := by
  cases i <;> rfl

/-- **How a step ends**: with the fault of fetching a word, or as the instruction does. -/
theorem step_result (m : Machine) :
    m.step.result = m.fetch.bind fun w => m.resultOf (Instruction.decode w) := by
  unfold step
  cases m.fetch with
  | error f => rfl
  | ok w =>
    show ((m.advance.execute (Instruction.decode w)).settle m.pc).result = _
    rw [Outcome.settle_result, execute_result, resultOf_advance]
    rfl

/-- The fault that the next step runs into. -/
def fault? (m : Machine) : Option Fault :=
  match m.fetch with
  | .error f => some f
  | .ok w => m.faultOf? (Instruction.decode w)

/-- A step faults exactly if `fault?` says so. -/
theorem step_error_iff (m : Machine) (f : Fault) :
    m.step.result = .error f ↔ m.fault? = some f := by
  rw [step_result, fault?]
  cases m.fetch with
  | error e => simp [Except.bind]
  | ok w =>
    simp only [Except.bind, resultOf]
    cases m.faultOf? (Instruction.decode w) with
    | none => simp
    | some e => simp

end Machine

/-! ## What is not done leaves no trace -/

/-- An outcome that is not done is the machine that it came from. -/
def Outcome.Keeps (o : Outcome) (m : Machine) : Prop :=
  o.result ≠ .ok .next → o.machine = m

namespace Machine

/-- The three ways in which a handler ends that looks before it writes. -/
inductive Ends (m : Machine) : Outcome → Prop
  | done (after : Machine) : Ends m after.done
  | faulted (f : Fault) : Ends m (m.faulted f)
  | waits : Ends m { machine := m, result := .ok .waitForKey }

theorem call_ends (m : Machine) (target : Address) : Ends m (m.call target) := by
  unfold call
  split
  · exact .done _
  · exact .faulted _

theorem ret_ends (m : Machine) : Ends m m.ret := by
  unfold ret
  split
  · exact .done _
  · exact .faulted _

theorem storeBytes_ends (m : Machine) (data : List UInt8) : Ends m (m.storeBytes data) := by
  unfold storeBytes
  split
  · exact .done _
  · exact .faulted _

theorem loadRegisters_ends (m : Machine) (x : Register) : Ends m (m.loadRegisters x) := by
  unfold loadRegisters
  split
  · exact .done _
  · exact .faulted _

theorem drawSprite_ends (m : Machine) (x y : Register) (n : Nibble) :
    Ends m (m.drawSprite x y n) := by
  unfold drawSprite
  split
  · exact .done _
  · exact .faulted _

theorem awaitKey_ends (m : Machine) (x : Register) : Ends m (m.awaitKey x) := by
  unfold awaitKey
  split
  · exact .done _
  · exact .waits

theorem keeps_of_next {o : Outcome} (h : o.result = .ok .next) (m : Machine) : o.Keeps m :=
  fun hne => absurd h hne

theorem Ends.keeps {m : Machine} {o : Outcome} (h : Ends m o) : o.Keeps m := by
  cases h with
  | done after => exact keeps_of_next rfl m
  | faulted f => exact fun _ => rfl
  | waits => exact fun _ => rfl

theorem Ends.notices_eq {m : Machine} {o : Outcome} (h : Ends m o) : o.notices = [] := by
  cases h with
  | done after => rfl
  | faulted f => rfl
  | waits => rfl

theorem execute_keeps (m : Machine) (i : Instruction) : (m.execute i).Keeps m := by
  cases i with
  | ret => exact (ret_ends m).keeps
  | call target => exact (call_ends m target).keeps
  | drw x y n => exact (drawSprite_ends m x y n).keeps
  | ldDecimal x => exact (storeBytes_ends m _).keeps
  | store x => exact (storeBytes_ends m _).keeps
  | load x => exact (loadRegisters_ends m x).keeps
  | ldKey x => exact (awaitKey_ends m x).keeps
  | _ => exact keeps_of_next rfl m

/-- Putting the program counter back undoes its moving on. -/
theorem settle_keeps {m : Machine} {o : Outcome} (h : o.Keeps m.advance) :
    (o.settle m.pc).Keeps m := by
  intro hne
  rw [Outcome.settle_result] at hne
  -- All that `advance` changed is the program counter, and that is put back.
  have hm : o.machine = m.advance := h hne
  unfold Outcome.settle
  split
  · next hnext => exact absurd hnext hne
  · show { o.machine with pc := m.pc } = m
    rw [hm]
    rfl
  · show { o.machine with pc := m.pc } = m
    rw [hm]
    rfl

theorem step_keeps (m : Machine) : m.step.Keeps m := by
  unfold step
  split
  · exact fun _ => rfl
  · exact settle_keeps (execute_keeps m.advance _)

/-- A step that is done fetched a word and carried out its instruction. -/
theorem step_of_next {m : Machine} (h : m.step.result = .ok .next) :
    ∃ w, m.fetch = .ok w ∧ m.step = m.advance.execute (Instruction.decode w) := by
  cases hw : m.fetch with
  | error f =>
    rw [step_of_error hw] at h
    exact nomatch h
  | ok w =>
    rw [step_of_word hw] at h ⊢
    refine ⟨w, rfl, ?_⟩
    have hresult : (m.advance.execute (Instruction.decode w)).result = .ok .next :=
      (Outcome.settle_result _ m.pc).symm.trans h
    unfold Outcome.settle
    rw [hresult]

/-- **A step that faults or waits changes nothing**: memory with the frame in it, all registers,
the stack with the places not in use, timers, keypad and random numbers are as before. -/
theorem step_machine_of_not_next (m : Machine)
    (h : (∃ f, m.step.result = .error f) ∨ m.step.result = .ok .waitForKey) :
    m.step.machine = m := by
  apply step_keeps m
  rcases h with ⟨f, hf⟩ | hw
  · rw [hf]
    exact fun he => nomatch he
  · rw [hw]
    exact fun he => nomatch he

/-- A machine about to draw five rows of a sprite of which memory holds two. -/
def drawingPastEnd : Machine :=
  (fresh 0).performAll [.load { bytes := [0xAF, 0xFE, 0xDA, 0xB5] }, .step]

/-- The sprite is out of bounds, and neither VF nor the frame is touched. -/
theorem step_drawingPastEnd :
    drawingPastEnd.step.result = .error (.addressOutOfBounds 0xFFE 5) ∧
      drawingPastEnd.step.machine = drawingPastEnd := by
  have h : drawingPastEnd.step.result = .error (.addressOutOfBounds 0xFFE 5) :=
    (step_error_iff drawingPastEnd _).mpr (by decide +kernel)
  exact ⟨h, step_machine_of_not_next drawingPastEnd (.inl ⟨_, h⟩)⟩

end Machine

end Chip8
