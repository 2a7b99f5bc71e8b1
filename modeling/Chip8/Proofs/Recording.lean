import Chip8.Proofs.Occurrences

/-!
# What a display records

Instruction ticks are all that a display sees of a session.  Each asks it once
to show the frame, whether the session is halted or not, so the display has
recorded one frame for each tick whose frame it could show.

Instructions are also all that writes to the frame, and each is followed by an
attempt to show it.  So what is on the display is the frame as it is now, unless
the latest attempt failed: neither timers nor keys can have changed it since.
The tone may have ended in the meantime; what is on the display is whether it
sounded at the latest tick.

## Main definitions

* `Unreliable.Shows`: a recording display has shown some frames more
* `Session.instructionTicks`: the instruction ticks among what happens
* `Session.OnDisplay`: what is on the display in the end

## Main results

* `Session.display_occurAll`: what is recorded if all frames are shown
* `Session.record_occurAll`: what is recorded in general
* `Session.frame_occurAll`: the frame is that of the latest tick
* `Session.onDisplay_occurAll`: what is on the display is the frame of the machine
-/

namespace Chip8

/-! ## A record of so many frames -/

namespace Unreliable

/-- A recording display that has been cleared, and asked for nothing else. -/
structure Blank (d : Unreliable Recorder) : Prop where
  attempts_eq : d.attempts = 0
  frames_eq : d.inner.frames = 0
  clears_eq : d.inner.clears = 1

/-- What a recording display has come to when it has shown some frames more. -/
structure Shows (before : Unreliable Recorder) (frames : Nat) (after : Unreliable Recorder) :
    Prop where
  attempts_eq : after.attempts = before.attempts + frames
  frames_eq : after.inner.frames = before.inner.frames + frames
  clears_eq : after.inner.clears = before.inner.clears
  drawFault_eq : after.drawFault = before.drawFault

theorem Shows.refl (d : Unreliable Recorder) : d.Shows 0 d := ⟨rfl, rfl, rfl, rfl⟩

theorem Shows.trans {d₁ d₂ d₃ : Unreliable Recorder} {m n : Nat} (h : d₁.Shows m d₂)
    (h' : d₂.Shows n d₃) : d₁.Shows (m + n) d₃ where
  attempts_eq := by rw [h'.attempts_eq, h.attempts_eq, Nat.add_assoc]
  frames_eq := by rw [h'.frames_eq, h.frames_eq, Nat.add_assoc]
  clears_eq := h'.clears_eq.trans h.clears_eq
  drawFault_eq := h'.drawFault_eq.trans h.drawFault_eq

end Unreliable

namespace Session

/-! ## What leaves the display alone -/

theorem display_advance {δ : Type} (s : Session δ) : s.advance.1.display = s.display := by
  unfold advance
  split
  · rfl
  · unfold absorb
    split
    · rfl
    · rfl

theorem display_handle {δ : Type} (s : Session δ) (e : KeyEvent) :
    (s.handle e).session.display = s.display := by
  cases e with
  | down code generation => rfl
  | up code generation => rfl
  | quit => rfl

theorem memory_handle {δ : Type} (s : Session δ) (e : KeyEvent) :
    (s.handle e).session.machine.memory = s.machine.memory := by
  cases e with
  | down code generation => rfl
  | up code generation => rfl
  | quit => rfl

/-! ## Ticks and their frames -/

section Recording

variable {s : Session (Unreliable Recorder)}

/-- A tick whose frame is shown adds it to the record. -/
theorem instructionTick_of_shown
    (h : s.display.drawFault (s.display.attempts + 1) = none) :
    s.instructionTick.error = none ∧ s.display.Shows 1 s.instructionTick.session.display := by
  rw [← display_advance s] at h ⊢
  unfold instructionTick showFrame
  dsimp only [Display.draw]
  rw [h]
  exact ⟨rfl, rfl, rfl, rfl, rfl⟩

/-- A tick whose frame is not shown leaves the record as it is. -/
theorem instructionTick_of_failed {reason : String}
    (h : s.display.drawFault (s.display.attempts + 1) = some reason) :
    s.instructionTick.error = some (.device reason) ∧
      s.instructionTick.session.display.inner = s.display.inner := by
  rw [← display_advance s] at h ⊢
  unfold instructionTick showFrame
  dsimp only [Display.draw]
  rw [h]
  exact ⟨rfl, rfl⟩

/-- **What a recording display has recorded**: a frame for each instruction tick, if all are
shown. -/
theorem display_occurAll (os : List Occurrence)
    (h : ∀ k, k < os.count .instruction →
      s.display.drawFault (s.display.attempts + (k + 1)) = none) :
    s.display.Shows (os.count .instruction) (s.occurAll os).1.display := by
  -- Nothing but instruction ticks asks the display for anything.
  induction os generalizing s with
  | nil => exact Unreliable.Shows.refl _
  | cons o rest ih =>
    rw [occurAll_cons]
    cases o with
    | instruction =>
      rw [List.count_cons_self] at h ⊢
      obtain ⟨-, hone⟩ := instructionTick_of_shown (h 0 (Nat.succ_pos _))
      rw [Nat.add_comm]
      refine hone.trans (ih fun k hk => ?_)
      show s.instructionTick.session.display.drawFault _ = none
      rw [hone.drawFault_eq, hone.attempts_eq, Nat.add_assoc, Nat.add_comm 1 (k + 1)]
      exact h (k + 1) (Nat.succ_lt_succ hk)
    | timer =>
      rw [List.count_cons_of_ne Occurrence.noConfusion] at h ⊢
      have hsame : (s.occur .timer).1.display = s.display := rfl
      rw [← hsame] at h ⊢
      exact ih h
    | key e =>
      rw [List.count_cons_of_ne Occurrence.noConfusion] at h ⊢
      have hsame : (s.occur (.key e)).1.display = s.display := display_handle s e
      rw [← hsame] at h ⊢
      exact ih h

end Recording

/-! ## What a tick records -/

section OneTick

variable {δ : Type}

/-- Whether the frame of a tick was shown. -/
def Tick.shown (t : Tick δ) : Bool :=
  t.error.isNone

/-- A record after a tick. -/
def Tick.recordIn (t : Tick δ) (r : Recorder) : Recorder :=
  match t.error with
  | none => r.add t.session.machine.frame t.session.machine.toneOn
  | some _ => r

theorem Tick.recordIn_of_shown {t : Tick δ} (h : t.shown = true) (r : Recorder) :
    t.recordIn r = r.add t.session.machine.frame t.session.machine.toneOn := by
  rw [recordIn, Option.isNone_iff_eq_none.mp h]

theorem Tick.frames_recordIn (t : Tick δ) (r : Recorder) :
    (t.recordIn r).frames = r.frames + if t.shown then 1 else 0 := by
  rw [recordIn, shown]
  cases t.error with
  | none => rfl
  | some e => rfl

theorem frames_foldl_recordIn (ticks : List (Tick δ)) (r : Recorder) :
    (ticks.foldl (fun r tick => tick.recordIn r) r).frames =
      r.frames + ticks.countP Tick.shown := by
  induction ticks generalizing r with
  | nil => rfl
  | cons tick rest ih =>
    rw [List.foldl_cons, ih, Tick.frames_recordIn, List.countP_cons, Nat.add_assoc,
      Nat.add_comm (rest.countP _)]

end OneTick

/-- A tick records its frame if that is shown, and nothing if it is not. -/
theorem record_instructionTick (s : Session (Unreliable Recorder)) :
    s.instructionTick.session.display.inner = s.instructionTick.recordIn s.display.inner := by
  -- The attempt is made by the display as it is after the step, which is as it was before.
  rw [← display_advance s]
  unfold Tick.recordIn instructionTick showFrame
  dsimp only [Display.draw]
  cases s.advance.1.display.drawFault (s.advance.1.display.attempts + 1) with
  | none => rfl
  | some reason => rfl

/-! ## The ticks of a session -/

section Ticks

variable {δ : Type} [Display δ]

/-- The tick that an occurrence is, if it is one. -/
def tick? (s : Session δ) : Occurrence → Option (Tick δ)
  | .instruction => some s.instructionTick
  | .timer | .key _ => none

/-- The instruction ticks among what happens to a session, the latest last. -/
def instructionTicks (s : Session δ) : List Occurrence → List (Tick δ)
  | [] => []
  | o :: rest => (s.tick? o).toList ++ (s.occur o).1.instructionTicks rest

/-- Only ticks change the frame. -/
theorem frame_occur (s : Session δ) (o : Occurrence) :
    (s.occur o).1.machine.frame =
      (s.tick? o).elim s.machine.frame fun tick => tick.session.machine.frame := by
  cases o with
  | instruction => rfl
  | timer => rfl
  | key e => exact congrArg Memory.frame (memory_handle s e)

/-- **The frame is that of the latest tick**, or the one there was if there was no tick. -/
theorem frame_occurAll (s : Session δ) (os : List Occurrence) :
    (s.occurAll os).1.machine.frame =
      (s.instructionTicks os).getLast?.elim s.machine.frame fun tick =>
        tick.session.machine.frame := by
  induction os generalizing s with
  | nil => rfl
  | cons o rest ih =>
    rw [occurAll_cons, instructionTicks, List.getLast?_append]
    refine (ih (s.occur o).1).trans ?_
    -- Without a later tick the frame is the one that the first occurrence left.
    cases (instructionTicks (s.occur o).1 rest).getLast? with
    | some tick => rfl
    | none =>
      refine (frame_occur s o).trans ?_
      cases s.tick? o with
      | none => rfl
      | some tick => rfl

end Ticks

/-! ## The record of a session -/

section Record

variable {s : Session (Unreliable Recorder)} {os : List Occurrence}

theorem record_occur (s : Session (Unreliable Recorder)) (o : Occurrence) :
    (s.occur o).1.display.inner =
      (s.tick? o).toList.foldl (fun r tick => tick.recordIn r) s.display.inner := by
  cases o with
  | instruction => exact record_instructionTick s
  | timer => rfl
  | key e => exact congrArg Unreliable.inner (display_handle s e)

/-- **The record is made by the ticks**, one after the other. -/
theorem record_occurAll (s : Session (Unreliable Recorder)) (os : List Occurrence) :
    (s.occurAll os).1.display.inner =
      (s.instructionTicks os).foldl (fun r tick => tick.recordIn r) s.display.inner := by
  induction os generalizing s with
  | nil => rfl
  | cons o rest ih =>
    rw [occurAll_cons, instructionTicks, List.foldl_append, ← record_occur]
    exact ih (s.occur o).1

/-- The latest tick is recorded last. -/
theorem record_of_latest {tick : Tick (Unreliable Recorder)}
    (hlatest : (s.instructionTicks os).getLast? = some tick) (hshown : tick.shown = true) :
    ∃ r : Recorder, (s.occurAll os).1.display.inner =
      r.add tick.session.machine.frame tick.session.machine.toneOn := by
  obtain ⟨earlier, hticks⟩ := List.getLast?_eq_some_iff.mp hlatest
  refine ⟨earlier.foldl (fun r tick => tick.recordIn r) s.display.inner, ?_⟩
  rw [record_occurAll, hticks, List.foldl_append]
  exact tick.recordIn_of_shown hshown _

/-- What is on a recording display when some things have happened to a session. -/
structure OnDisplay (s : Session (Unreliable Recorder)) (os : List Occurrence)
    (after : Session (Unreliable Recorder)) : Prop where
  /-- There is one frame for each tick whose frame was shown. -/
  frames_eq : after.display.inner.frames =
    s.display.inner.frames + (s.instructionTicks os).countP Tick.shown
  /-- If the frame of the latest tick was shown, it is the frame as it is now. -/
  frame_eq : ∀ tick, (s.instructionTicks os).getLast? = some tick → tick.shown = true →
    after.display.inner.lastFrame = after.machine.frame ∧
      after.display.inner.lastFrame.length = 256
  /-- The tone is the one right after the step of that tick. -/
  tone_eq : ∀ tick, (s.instructionTicks os).getLast? = some tick → tick.shown = true →
    (after.display.inner.lastTone = true ↔ tick.session.machine.timers.sound.value ≠ 0)

theorem length_frame (m : Machine) : m.frame.length = 256 :=
  Memory.length_slice _ _ _

/-- **What is on the display is the frame of the machine**, however its attempts fare and whatever
happens, in any order, to a session that may be halted. -/
theorem onDisplay_occurAll (s : Session (Unreliable Recorder)) (os : List Occurrence) :
    s.OnDisplay os (s.occurAll os).1 where
  frames_eq := by rw [record_occurAll, frames_foldl_recordIn]
  frame_eq tick hlatest hshown := by
    obtain ⟨r, hr⟩ := record_of_latest hlatest hshown
    -- Both sides are the frame of that tick: the record's as it was shown, the machine's as nothing
    -- has changed it since.
    rw [hr, frame_occurAll, hlatest]
    exact ⟨rfl, length_frame tick.session.machine⟩
  tone_eq tick hlatest hshown := by
    obtain ⟨r, hr⟩ := record_of_latest hlatest hshown
    rw [hr]
    exact decide_eq_true_iff

end Record

end Session

end Chip8
