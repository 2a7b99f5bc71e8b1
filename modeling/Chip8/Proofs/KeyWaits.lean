import Chip8.Proofs.DeadState
import Chip8.Proofs.FaultRules
import Chip8.Proofs.Forms
import Chip8.Proofs.KeyHistory

/-!
# Waiting for a key

A program waits for a key by `Fx0A`.  While no key is down, steps lead back to
where they started: the word is read again and again, releases find nothing to
release, and only the timers go on.  What ends the wait is a key that is down
when a step is made; whether it is still held from before or the last of many
events makes no difference, and of several keys the lowest is taken.

So a step that waits is a stutter, and can be left out of any run.

## Main definitions

* `Machine.AtWait`: the word at the program counter waits for a key
* `Operation.Patient`, `Operation.Outside`: what does not press a key, and what
  does not make a step
* `Machine.TakesKey`: the next step ends the wait
* `Machine.KeyWait`: how a machine waits, and how it goes on
* `Machine.withoutWaits`: a run without the steps that wait

## Main results

* `Machine.stutters`: a run that presses no key, while the machine waits
* `Machine.AtWait.performAll`: events and ticks leave it at the word
* `Machine.performAll_withoutWaits`, `Machine.trace_withoutWaits`: stutters can
  be left out
* `Machine.waits_until_key`: a wait lasts until a key is down
-/

namespace Chip8

theorem Word.decode_eq_ldKey_iff {w : Word} {x : Register} :
    Instruction.decode w = .ldKey x ↔ w.Fits "Fx0A" ∧ x = w.x := by
  rw [decode_eq_iff]
  constructor
  · rintro (h | ⟨h, -⟩)
    · cases h with
      | ldKey form => exact ⟨form, rfl⟩
    · cases h
  · rintro ⟨form, rfl⟩
    exact .inl (.ldKey form)

namespace Keypad

variable {p : Keypad}

/-- No release counts where no key is down. -/
theorem release_of_no_key (hmask : p.mask = 0) (code : UInt8) (generation : UInt64) :
    p.release code generation = (false, p) := by
  have hup : p.isDown (Key.ofCode code) = false := by
    rw [← isDown_fresh (Key.ofCode code)]
    exact mask_eq_iff.mp (hmask.trans mask_fresh.symm) _
  rw [release, accepts, hup]
  rfl

/-- Where a key is down there is a lowest one, and the bits of the mask tell which it is. -/
theorem exists_first? (hmask : p.mask ≠ 0) :
    ∃ k, p.first? = some k ∧ p.mask.toNat.testBit k.val = true ∧
      ∀ j : Key, p.mask.toNat.testBit j.val = true → k ≤ j := by
  cases hk : p.first? with
  | none => exact absurd ((first?_eq_none_iff p).mp hk) hmask
  | some k =>
    have hlowest := (first?_eq_some_iff p k).mp hk
    -- Codes, keys and bits are three names for the same.
    simp only [isPressed_code, ← testBit_mask] at hlowest
    exact ⟨k, rfl, hlowest⟩

end Keypad

namespace Operation

/-- Neither loads a program nor presses a key. -/
def Patient : Operation → Prop
  | .step | .tick | .keyUp _ _ => True
  | .load _ | .keyDown _ _ => False

/-- A key event or a tick of the timers. -/
def Outside : Operation → Prop
  | .tick | .keyDown _ _ | .keyUp _ _ => True
  | .load _ | .step => False

/-- What a machine that waits for a key answers, unless it is loaded. -/
def waitAnswer : Operation → Answer
  | .step => .stepped (.ok .waitForKey) []
  | .keyUp _ _ => .released false
  | _ => .done

end Operation

namespace Machine

/-! ## The word that waits -/

/-- The word at the program counter is one that waits for a key. -/
structure AtWait (m : Machine) (w : Word) : Prop where
  reads : m.Reads w
  form : w.Fits "Fx0A"

variable {m : Machine} {w : Word}

theorem AtWait.step_eq (h : m.AtWait w) : m.step = (m.advance.awaitKey w.x).settle m.pc := by
  have hfetch : m.fetch = .ok w := (fetch_eq_ok_iff m w).mpr h.reads
  have hdecode : Instruction.decode w = .ldKey w.x := Word.decode_eq_ldKey_iff.mpr ⟨h.form, rfl⟩
  rw [step_of_word hfetch, hdecode]
  rfl

/-- While no key is down, a step leads back to where it started. -/
theorem AtWait.step_of_no_key (h : m.AtWait w) (hmask : m.keypad.mask = 0) :
    m.step = { machine := m, result := .ok .waitForKey } := by
  have hfirst : m.advance.keypad.first? = none := (Keypad.first?_eq_none_iff _).mpr hmask
  rw [h.step_eq, awaitKey, hfirst]
  rfl

/-- A step that finds a key down takes the lowest. -/
theorem AtWait.step_of_key (h : m.AtWait w) {k : Key} (hk : m.keypad.first? = some k) :
    m.step = { machine := { m with
      registers := m.registers.set w.x k.code
      pc := m.pc + 2 } } := by
  have hfirst : m.advance.keypad.first? = some k := hk
  rw [h.step_eq, awaitKey, hfirst]
  rfl

/-- A step at the word waits exactly if no key is down. -/
theorem AtWait.waits_iff (h : m.AtWait w) :
    m.step.result = .ok .waitForKey ↔ m.keypad.mask = 0 := by
  rw [← Keypad.first?_eq_none_iff]
  constructor
  · intro hwait
    cases hk : m.keypad.first? with
    | none => rfl
    | some k =>
      rw [h.step_of_key hk] at hwait
      cases hwait
  · intro hk
    rw [h.step_of_no_key ((Keypad.first?_eq_none_iff _).mp hk)]

/-- The next step is done: it stores the lowest key that is down in a register, leaves the word
behind, and changes nothing else. -/
def TakesKey (m : Machine) (x : Register) : Prop :=
  ∃ k : Key, m.keypad.mask.toNat.testBit k.val = true ∧
    (∀ j : Key, m.keypad.mask.toNat.testBit j.val = true → k ≤ j) ∧
    m.step.result = .ok .next ∧ m.step.notices = [] ∧
    m.step.machine = { m with
      registers := m.registers.set x k.code
      pc := m.pc + 2 }

theorem AtWait.takesKey (h : m.AtWait w) (hmask : m.keypad.mask ≠ 0) : m.TakesKey w.x := by
  obtain ⟨k, hk, hbit, hlowest⟩ := Keypad.exists_first? hmask
  have hstep := h.step_of_key hk
  refine ⟨k, hbit, hlowest, ?_, ?_, ?_⟩
  · rw [hstep]
  · rw [hstep]
  · rw [hstep]

/-- Only at such a word does a step wait. -/
theorem exists_atWait (h : m.step.result = .ok .waitForKey) : ∃ w, m.AtWait w := by
  rw [step_result] at h
  cases hw : m.fetch with
  | error f =>
    rw [hw] at h
    cases h
  | ok w =>
    rw [hw] at h
    obtain ⟨⟨x, hx⟩, -⟩ := (resultOf_eq_wait_iff m (Instruction.decode w)).mp h
    exact ⟨w, (fetch_eq_ok_iff m w).mp hw, (Word.decode_eq_ldKey_iff.mp hx).1⟩

/-- A step that waits is a stutter. -/
theorem step_of_waits (h : m.step.result = .ok .waitForKey) :
    m.step = { machine := m, result := .ok .waitForKey } := by
  obtain ⟨w, hw⟩ := exists_atWait h
  exact hw.step_of_no_key (hw.waits_iff.mp h)

/-- Memory and the program counter decide what the word is. -/
theorem AtWait.of_eq {m' : Machine} (h : m.AtWait w) (hmemory : m'.memory = m.memory)
    (hpc : m'.pc = m.pc) : m'.AtWait w := by
  obtain ⟨⟨heven, hinside, hbytes⟩, hform⟩ := h
  rw [← hpc] at heven hinside hbytes
  rw [← hmemory] at hbytes
  exact ⟨⟨heven, hinside, hbytes⟩, hform⟩

/-! ## While no key is pressed -/

/-- A tick now is one of those to come. -/
theorem elapse_tick (m : Machine) (n : Nat) : m.tick.elapse n = m.elapse (n + 1) := by
  induction n with
  | zero => rw [elapse_zero, elapse_succ, elapse_zero]
  | succ n ih => rw [elapse_succ, ih, ← elapse_succ]

/-- **One operation**: while the machine waits and no key is pressed, nothing but a tick of the
timers changes anything. -/
theorem AtWait.perform_of_patient (h : m.AtWait w) (hmask : m.keypad.mask = 0) {op : Operation}
    (hop : op.Patient) : m.perform op = (if op = .tick then m.tick else m, op.waitAnswer) := by
  cases op with
  | load image => cases hop
  | step =>
    show (m.step.machine, Answer.stepped m.step.result m.step.notices) = _
    rw [h.step_of_no_key hmask]
    rfl
  | tick => rfl
  | keyDown code generation => cases hop
  | keyUp code generation =>
    show ((m.keyUp code generation).2, Answer.released (m.keyUp code generation).1) = _
    rw [keyUp, Keypad.release_of_no_key hmask]
    rfl

/-- **A run**: as long as no key is pressed, the machine waits on.  Every step answers so, no
release counts, and only the timers have gone on in the end. -/
theorem stutters (h : m.AtWait w) (hmask : m.keypad.mask = 0) {run : List Operation}
    (hrun : ∀ op ∈ run, op.Patient) :
    m.performAll run = m.elapse (run.count .tick) ∧
      (m.trace run).map Prod.snd = run.map Operation.waitAnswer := by
  -- Both memory and keypad are the same after each operation, so the machine goes on to wait.
  induction run generalizing m with
  | nil => exact ⟨(elapse_zero m).symm, rfl⟩
  | cons op rest ih =>
    obtain ⟨hop, hrest⟩ := List.forall_mem_cons.mp hrun
    have hperform := h.perform_of_patient hmask hop
    rw [performAll_cons, trace, hperform]
    by_cases htick : op = .tick
    · subst htick
      -- The rest of the run counts from the machine after the tick.
      obtain ⟨hmachine, hanswers⟩ := ih (m := m.tick) (h.of_eq rfl rfl) hmask hrest
      rw [List.count_cons_self, ← elapse_tick]
      exact ⟨hmachine, congrArg _ hanswers⟩
    · obtain ⟨hmachine, hanswers⟩ := ih h hmask hrest
      rw [if_neg htick, List.count_cons_of_ne htick]
      exact ⟨hmachine, congrArg _ hanswers⟩

/-! ## When a key is down -/

/-- Events and ticks have nothing to do with the word. -/
theorem AtWait.perform (h : m.AtWait w) {op : Operation} (hop : op.Outside) :
    (m.perform op).1.AtWait w := by
  cases op with
  | load image => cases hop
  | step => cases hop
  | tick => exact h.of_eq rfl rfl
  | keyDown code generation => exact h.of_eq rfl rfl
  | keyUp code generation => exact h.of_eq rfl rfl

/-- So the machine is at the word still when the next step is made, whatever keys went down and up
in the meantime. -/
theorem AtWait.performAll (h : m.AtWait w) {run : List Operation}
    (hrun : ∀ op ∈ run, op.Outside) : (m.performAll run).AtWait w := by
  induction run generalizing m with
  | nil => exact h
  | cons op rest ih =>
    obtain ⟨hop, hrest⟩ := List.forall_mem_cons.mp hrun
    exact ih (h.perform hop) hrest

/-- How a machine waits for a key at a word, and how it goes on. -/
structure KeyWait (m : Machine) (w : Word) : Prop extends AtWait m w where
  /-- While no key is pressed, every step waits again and no release counts. -/
  answers_eq : ∀ run : List Operation, (∀ op ∈ run, op.Patient) →
    (m.trace run).map Prod.snd = run.map Operation.waitAnswer
  /-- Nothing but the timers goes on. -/
  performAll_eq : ∀ run : List Operation, (∀ op ∈ run, op.Patient) →
    m.performAll run = m.elapse (run.count .tick)
  /-- After any events and ticks, the next step waits exactly if no key is down. -/
  waits_iff : ∀ run : List Operation, (∀ op ∈ run, op.Outside) →
    ((m.performAll run).step.result = .ok .waitForKey ↔ (m.performAll run).keypad.mask = 0)
  takesKey : ∀ run : List Operation, (∀ op ∈ run, op.Outside) →
    (m.performAll run).keypad.mask ≠ 0 → (m.performAll run).TakesKey w.x

theorem AtWait.keyWait (h : m.AtWait w) (hmask : m.keypad.mask = 0) : m.KeyWait w where
  toAtWait := h
  answers_eq _ hrun := (stutters h hmask hrun).2
  performAll_eq _ hrun := (stutters h hmask hrun).1
  waits_iff _ hrun := (h.performAll hrun).waits_iff
  takesKey _ hrun hdown := (h.performAll hrun).takesKey hdown

end Machine

/-! ## Runs without the steps that wait -/

/-- The answer of a step that waits. -/
def Answer.isWait : Answer → Bool
  | .stepped (.ok .waitForKey) _ => true
  | _ => false

theorem Answer.isWait_stepped_iff (result : Except Fault Flow) (notices : List Notice) :
    (stepped result notices).isWait = true ↔ result = .ok .waitForKey := by
  constructor
  · intro h
    unfold isWait at h
    split at h
    · next heq => exact (stepped.inj heq).1
    · cases h
  · rintro rfl
    rfl

namespace Machine

/-- A run without the steps that wait. -/
def withoutWaits (m : Machine) : List Operation → List Operation
  | [] => []
  | op :: rest =>
    if (m.perform op).2.isWait then (m.perform op).1.withoutWaits rest
    else op :: (m.perform op).1.withoutWaits rest

variable {m : Machine}

/-- An operation that is answered by a wait is a step, and a stutter. -/
theorem perform_of_isWait {op : Operation} (h : (m.perform op).2.isWait = true) :
    (m.perform op).1 = m := by
  -- Only steps have an answer that can be a wait.
  cases op with
  | step =>
    have hwait : m.step.result = .ok .waitForKey := (Answer.isWait_stepped_iff _ _).mp h
    show m.step.machine = m
    rw [step_of_waits hwait]
  | load image =>
    change (m.performLoad image).2.isWait = true at h
    unfold performLoad at h
    split at h <;> cases h
  | tick => cases h
  | keyDown code generation => cases h
  | keyUp code generation => cases h

theorem withoutWaits_cons_of_wait {op : Operation} (h : (m.perform op).2.isWait = true)
    (rest : List Operation) : m.withoutWaits (op :: rest) = m.withoutWaits rest := by
  rw [withoutWaits, if_pos h, perform_of_isWait h]

theorem withoutWaits_cons_of_not_wait {op : Operation} (h : ¬ (m.perform op).2.isWait = true)
    (rest : List Operation) :
    m.withoutWaits (op :: rest) = op :: (m.perform op).1.withoutWaits rest := by
  rw [withoutWaits, if_neg h]

/-- **Stutters can be left out**: the machine is the same in the end. -/
theorem performAll_withoutWaits (m : Machine) (run : List Operation) :
    m.performAll (m.withoutWaits run) = m.performAll run := by
  -- After a wait the rest of the run meets the machine that it would have met without it.
  induction run generalizing m with
  | nil => rfl
  | cons op rest ih =>
    by_cases h : (m.perform op).2.isWait = true
    · rw [withoutWaits_cons_of_wait h, performAll_cons, perform_of_isWait h]
      exact ih m
    · rw [withoutWaits_cons_of_not_wait h, performAll_cons, performAll_cons]
      exact ih (m.perform op).1

/-- What is left out is what waited, and all else goes on as it did. -/
theorem trace_withoutWaits (m : Machine) (run : List Operation) :
    m.trace (m.withoutWaits run) = (m.trace run).filter fun after => !after.2.isWait := by
  induction run generalizing m with
  | nil => rfl
  | cons op rest ih =>
    rw [trace]
    by_cases h : (m.perform op).2.isWait = true
    · rw [withoutWaits_cons_of_wait h, List.filter_cons_of_neg (by simp [h]), perform_of_isWait h]
      exact ih m
    · rw [withoutWaits_cons_of_not_wait h, List.filter_cons_of_pos (by simp [h]), trace]
      exact congrArg _ (ih (m.perform op).1)

example : (fresh 0).withoutWaits [.load { bytes := [0xF3, 0x0A] }, .step, .tick, .step,
    .keyDown 0xB 1, .step] = [.load { bytes := [0xF3, 0x0A] }, .tick, .keyDown 0xB 1, .step] := by
  decide +kernel

/-- **Waiting for a key is a stutter that ends when a key is down.**  A step waits at `Fx0A` only;
until a key is pressed nothing but the timers goes on, and the first step that finds a key down
takes it.  So a run without the steps that wait comes to the same. -/
theorem waits_until_key :
    (∀ m : Machine, m.step.result = .ok .waitForKey → ∃ w, m.KeyWait w) ∧
      ∀ (m : Machine) (run : List Operation),
        m.performAll (m.withoutWaits run) = m.performAll run ∧
          m.trace (m.withoutWaits run) = (m.trace run).filter fun after => !after.2.isWait := by
  constructor
  · intro m hwait
    obtain ⟨w, h⟩ := exists_atWait hwait
    exact ⟨w, h.keyWait (h.waits_iff.mp hwait)⟩
  · intro m run
    exact ⟨performAll_withoutWaits m run, trace_withoutWaits m run⟩

/-- A machine about to wait for a key, after one that was pressed is up again. -/
def awaitingKey : Machine :=
  (fresh 0).performAll [.load { bytes := [0xF3, 0x0A] }, .keyDown 0x15 7, .keyUp 0x5 7]

theorem waits_until_key_awaitingKey :
    awaitingKey.step.result = .ok .waitForKey ∧ ∃ w, awaitingKey.KeyWait w := by
  have hreads : awaitingKey.Reads 0xF30A :=
    ⟨by decide +kernel, by decide +kernel, by decide +kernel⟩
  have hmask : awaitingKey.keypad.mask = 0 := by decide +kernel
  have hword : awaitingKey.AtWait 0xF30A := ⟨hreads, rfl, trivial, rfl, rfl, trivial⟩
  have h : awaitingKey.step.result = .ok .waitForKey := hword.waits_iff.mpr hmask
  exact ⟨h, waits_until_key.1 awaitingKey h⟩

end Machine

end Chip8
