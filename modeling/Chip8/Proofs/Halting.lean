import Chip8.Proofs.Faults
import Chip8.Proofs.Occurrences

/-!
# Halting is transparent

A session stops running instructions at the first fault.  A bare machine that
is stepped on at every instruction tick ends up in the same state all the same:
a step that faults changes nothing, and neither timers nor keys have a say in
whether the next one faults, so the fault is there to stay.

So a session is a bare machine that tells of its first fault and is quiet about
the rest, which are that fault over and over again.

## Main definitions

* `Machine.faults`: the steps of a run that fault
* `Session.errors`: what is told as an error
* `Session.Stuck`: a halted session's machine would fault again
* `Session.Mirrors`: a session went the way of a bare machine

## Main results

* `fault?_performAll_operations`: a fault persists
* `occur_mirrors`, `occurAll_mirrors`: the simulation, once and over and over
* `occurAll_bare`: a session from its start is a bare machine
-/

namespace Chip8

namespace Machine

/-! ## The faults of a run -/

/-- Where a step starts that faults, and its fault. -/
def faultAt? (m : Machine) : Operation → Option (UInt16 × Fault)
  | .step =>
    match m.step.result with
    | .error f => some (m.pc, f)
    | .ok _ => none
  | _ => none

/-- The steps of a run that fault. -/
def faults (m : Machine) : List Operation → List (UInt16 × Fault)
  | [] => []
  | op :: rest => (m.faultAt? op).toList ++ (m.perform op).1.faults rest

theorem faults_append (m : Machine) (first rest : List Operation) :
    m.faults (first ++ rest) = m.faults first ++ (m.performAll first).faults rest := by
  induction first generalizing m with
  | nil => rfl
  | cons op first ih =>
    rw [List.cons_append, faults, faults, ih, List.append_assoc]
    rfl

theorem faultAt?_step (m : Machine) : m.faultAt? .step = m.fault?.map fun f => (m.pc, f) := by
  cases hf : m.fault? with
  | none =>
    cases hr : m.step.result with
    | ok flow => simp only [faultAt?, hr, Option.map_none]
    | error f =>
      rw [step_error_iff, hf] at hr
      cases hr
  | some f =>
    simp only [faultAt?, (step_error_iff m f).mpr hf, Option.map_some]

/-! ## A fault persists -/

theorem step_machine_of_fault? {m : Machine} {f : Fault} (h : m.fault? = some f) :
    m.step.machine = m := by
  apply step_keeps m
  rw [(step_error_iff m f).mpr h]
  exact fun he => nomatch he

/-- **A fault persists**: whatever happens to a session, the next step of its machine runs into
the same fault. -/
theorem fault?_performAll_operations {m : Machine} {f : Fault} (h : m.fault? = some f)
    (o : Occurrence) : (m.performAll o.operations).fault? = some f := by
  cases o with
  | instruction =>
    show m.step.machine.fault? = some f
    rw [step_machine_of_fault? h]
    exact h
  | timer => exact h
  | key e =>
    -- Neither timers nor keys are looked at by `fault?`.
    cases e with
    | down code g => exact h
    | up code g => exact h
    | quit => exact h

/-! ## Steps tell of no errors -/

/-- What an instruction has to tell. -/
def noticesOf (m : Machine) : Instruction → List Notice
  | .sys target => [.routineIgnored target m.site]
  | .unknown w => [.unsupported w m.site]
  | _ => []

theorem execute_notices (m : Machine) (i : Instruction) :
    (m.execute i).notices = m.noticesOf i := by
  cases i with
  | ret => exact (ret_ends m).notices_eq
  | call target => exact (call_ends m target).notices_eq
  | drw x y n => exact (drawSprite_ends m x y n).notices_eq
  | ldDecimal x => exact (storeBytes_ends m _).notices_eq
  | store x => exact (storeBytes_ends m _).notices_eq
  | load x => exact (loadRegisters_ends m x).notices_eq
  | ldKey x => exact (awaitKey_ends m x).notices_eq
  | _ => rfl

theorem settle_notices (o : Outcome) (pc : UInt16) : (o.settle pc).notices = o.notices := by
  obtain ⟨pc', h⟩ := o.settle_eq pc
  rw [h]

/-- A step tells of machine code routines and of words that stand for nothing. -/
theorem mem_step_notices {m : Machine} {n : Notice} (h : n ∈ m.step.notices) :
    (∃ target site, n = .routineIgnored target site) ∨ ∃ w site, n = .unsupported w site := by
  unfold step at h
  split at h
  · exact absurd h List.not_mem_nil
  · rw [settle_notices, execute_notices] at h
    unfold noticesOf at h
    split at h
    · exact .inl ⟨_, _, List.mem_singleton.mp h⟩
    · exact .inr ⟨_, _, List.mem_singleton.mp h⟩
    · exact absurd h List.not_mem_nil

theorem severity_of_mem_step_notices {m : Machine} {n : Notice} (h : n ∈ m.step.notices) :
    n.severity ≠ .error := by
  rcases mem_step_notices h with ⟨target, site, rfl⟩ | ⟨w, site, rfl⟩
  · exact fun he => nomatch he
  · exact fun he => nomatch he

end Machine

/-! ## The simulation -/

namespace Session

variable {δ : Type}

/-- What is told as an error. -/
def errors (told : List Notice) : List Notice :=
  told.filter fun n => n.severity = .error

theorem errors_append (first rest : List Notice) :
    errors (first ++ rest) = errors first ++ errors rest :=
  List.filter_append ..

theorem errors_step_notices (m : Machine) : errors m.step.notices = [] := by
  refine List.filter_eq_nil_iff.mpr fun n hn => ?_
  simpa using Machine.severity_of_mem_step_notices hn

/-- How a step is told of that starts at an address and faults. -/
def halting (place : UInt16 × Fault) : Notice :=
  .halting place.1 place.2

/-- If a session is halted, the next step of its machine would fault. -/
def Stuck (s : Session δ) : Prop :=
  s.halted = true → ∃ f, s.machine.fault? = some f

/-- **The simulation**: from one session to a later one, the machine went through a run, the
session halted if a step of it faulted, and of all faults only the first was told. -/
structure Mirrors (s after : Session δ) (told : List Notice) (run : List Operation) : Prop where
  machine_eq : after.machine = s.machine.performAll run
  halted_iff : after.halted = true ↔ s.halted = true ∨ s.machine.faults run ≠ []
  errors_eq : errors told =
    if s.halted = true then [] else ((s.machine.faults run).take 1).map halting
  stuck : after.Stuck

namespace Mirrors

theorem refl {s : Session δ} (hs : s.Stuck) : Mirrors s s [] [] where
  machine_eq := rfl
  halted_iff := by simp [Machine.faults]
  errors_eq := by simp [errors, Machine.faults]
  stuck := hs

theorem trans {s s₁ s₂ : Session δ} {told₁ told₂ : List Notice} {run₁ run₂ : List Operation}
    (h₁ : Mirrors s s₁ told₁ run₁) (h₂ : Mirrors s₁ s₂ told₂ run₂) :
    Mirrors s s₂ (told₁ ++ told₂) (run₁ ++ run₂) where
  machine_eq := by rw [h₂.machine_eq, h₁.machine_eq, Machine.performAll_append]
  halted_iff := by
    rw [h₂.halted_iff, h₁.halted_iff, h₁.machine_eq, Machine.faults_append, or_assoc]
    simp only [ne_eq, List.append_eq_nil_iff, Classical.not_and_iff_not_or_not]
  errors_eq := by
    rw [errors_append, h₁.errors_eq, h₂.errors_eq, Machine.faults_append, ← h₁.machine_eq]
    by_cases hs : s.halted = true
    · have hs₁ : s₁.halted = true := h₁.halted_iff.mpr (.inl hs)
      rw [if_pos hs, if_pos hs₁, if_pos hs]
      rfl
    · rw [if_neg hs, if_neg hs]
      cases hf : s.machine.faults run₁ with
      | nil =>
        have hs₁ : ¬ s₁.halted = true := fun hc =>
          (h₁.halted_iff.mp hc).elim hs fun hne => hne hf
        rw [if_neg hs₁]
        rfl
      | cons first others =>
        -- The first fault is already told, and the session is quiet about all that follow.
        have hs₁ : s₁.halted = true := h₁.halted_iff.mpr (.inr (by rw [hf]; simp))
        rw [if_pos hs₁]
        simp
  stuck := h₂.stuck

end Mirrors

/-! ### One occurrence -/

theorem advance_of_halted {s : Session δ} (h : s.halted = true) : s.advance = (s, []) := by
  rw [advance, if_pos h]

theorem advance_of_fault {s : Session δ} {f : Fault} (h : ¬ s.halted = true)
    (hf : s.machine.fault? = some f) :
    s.advance = ({ s with halted := true }, s.machine.step.notices ++ [.halting s.machine.pc f]) := by
  have hr := (Machine.step_error_iff s.machine f).mpr hf
  rw [advance, if_neg h, absorb, hr, Machine.step_machine_of_fault? hf]

theorem advance_of_fine {s : Session δ} (h : ¬ s.halted = true) (hf : s.machine.fault? = none) :
    s.advance = ({ s with machine := s.machine.step.machine }, s.machine.step.notices) := by
  cases hr : s.machine.step.result with
  | ok flow => rw [advance, if_neg h, absorb, hr]
  | error f =>
    rw [Machine.step_error_iff, hf] at hr
    cases hr

theorem faults_step (m : Machine) :
    m.faults [.step] = (m.fault?.map fun f => (m.pc, f)).toList := by
  rw [Machine.faults, Machine.faultAt?_step, Machine.faults, List.append_nil]

/-- Running an instruction, unless the session is halted, is a step of the bare machine. -/
theorem advance_mirrors {s : Session δ} (hs : s.Stuck) :
    Mirrors s s.advance.1 s.advance.2 [.step] := by
  by_cases h : s.halted = true
  · obtain ⟨f, hf⟩ := hs h
    rw [advance_of_halted h]
    refine ⟨?_, ?_, ?_, hs⟩
    · exact (Machine.step_machine_of_fault? hf).symm
    · exact ⟨.inl, fun _ => h⟩
    · rw [if_pos h]
      rfl
  · cases hf : s.machine.fault? with
    | none =>
      rw [advance_of_fine h hf]
      refine ⟨rfl, ?_, ?_, fun hc => absurd hc h⟩
      · rw [faults_step, hf]
        simp
      · rw [if_neg h, faults_step, hf, errors_step_notices]
        rfl
    | some f =>
      rw [advance_of_fault h hf]
      refine ⟨?_, ?_, ?_, fun _ => ⟨f, hf⟩⟩
      · exact (Machine.step_machine_of_fault? hf).symm
      · rw [faults_step, hf]
        simp
      · rw [if_neg h, faults_step, hf, errors_append, errors_step_notices]
        rfl

theorem timerTick_mirrors {s : Session δ} (hs : s.Stuck) : Mirrors s s.timerTick [] [.tick] where
  machine_eq := rfl
  halted_iff := by simp [Machine.faults, Machine.faultAt?, timerTick]
  errors_eq := by simp [Machine.faults, Machine.faultAt?, errors]
  stuck h :=
    let ⟨f, hf⟩ := hs h
    ⟨f, Machine.fault?_performAll_operations hf .timer⟩

theorem handle_mirrors {s : Session δ} (hs : s.Stuck) (e : KeyEvent) :
    Mirrors s (s.handle e).session (s.handle e).notices (Occurrence.key e).operations := by
  have hstuck : ∀ m : Machine, m = s.machine.performAll (Occurrence.key e).operations →
      Stuck { s with machine := m } := by
    rintro m rfl h
    obtain ⟨f, hf⟩ := hs h
    exact ⟨f, Machine.fault?_performAll_operations hf (.key e)⟩
  cases e with
  | down code g =>
    exact ⟨rfl, by simp [Occurrence.operations, Machine.faults, Machine.faultAt?, handle],
      by simp [Occurrence.operations, Machine.faults, Machine.faultAt?, handle, errors],
      hstuck _ rfl⟩
  | up code g =>
    refine ⟨rfl, ?_, ?_, hstuck _ rfl⟩
    · simp [Occurrence.operations, Machine.faults, Machine.faultAt?, handle]
    · have herrors : errors (s.handle (.up code g)).notices = [] := by
        unfold handle
        simp only
        split <;> rfl
      rw [herrors]
      simp [Occurrence.operations, Machine.faults, Machine.faultAt?]
  | quit => exact Mirrors.refl hs

variable [Display δ]

/-- One occurrence mirrors the operations that it stands for. -/
theorem occur_mirrors {s : Session δ} (hs : s.Stuck) (o : Occurrence) :
    Mirrors s (s.occur o).1 (s.occur o).2 o.operations := by
  cases o with
  | instruction =>
    -- Showing the frame leaves all but the display as it is.
    obtain ⟨hm, hh, he, hst⟩ := advance_mirrors hs
    exact ⟨hm, hh, he, hst⟩
  | timer => exact timerTick_mirrors hs
  | key e => exact handle_mirrors hs e

theorem occurAll_mirrors {s : Session δ} (hs : s.Stuck) (occurrences : List Occurrence) :
    Mirrors s (s.occurAll occurrences).1 (s.occurAll occurrences).2
      (occurrences.flatMap Occurrence.operations) := by
  induction occurrences generalizing s with
  | nil => exact Mirrors.refl hs
  | cons o rest ih =>
    have ho := occur_mirrors hs o
    rw [occurAll_cons, List.flatMap_cons]
    exact ho.trans (ih ho.stuck)

/-- **Halting is transparent.**  Whatever happens to a session, and whichever of its frames are
shown, its machine is the bare machine that was stepped on at every instruction tick; the session
is halted exactly if one of those steps faulted, and stays so; and it told of one error then, the
first fault with its place, and of none otherwise. -/
theorem occurAll_bare (m : Machine) (display : δ) (occurrences : List Occurrence) :
    ((start m display).occurAll occurrences).1.machine =
        m.performAll (occurrences.flatMap Occurrence.operations) ∧
      (((start m display).occurAll occurrences).1.halted = true ↔
        m.faults (occurrences.flatMap Occurrence.operations) ≠ []) ∧
      errors ((start m display).occurAll occurrences).2 =
        ((m.faults (occurrences.flatMap Occurrence.operations)).take 1).map halting ∧
      ∀ later : List Occurrence, ((start m display).occurAll occurrences).1.halted = true →
        ((start m display).occurAll (occurrences ++ later)).1.halted = true := by
  have hs : Stuck (start m display) := fun h => nomatch h
  have h := occurAll_mirrors hs occurrences
  refine ⟨h.machine_eq, ?_, ?_, fun later hh => ?_⟩
  · rw [h.halted_iff]
    simp [start]
  · rw [h.errors_eq]
    simp [start]
  · rw [(occurAll_mirrors hs _).halted_iff, List.flatMap_append, Machine.faults_append]
    refine .inr fun hnil => ?_
    have hne := (h.halted_iff.mp hh).resolve_left fun hc => nomatch hc
    exact hne (List.append_eq_nil_iff.mp hnil).1

end Session

end Chip8
