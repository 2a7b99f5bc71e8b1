import Chip8.Proofs.Halting
import Chip8.Proofs.Parts

/-!
# Key events as they are delivered

A keypad takes in the key events that a session is handed, in their order, and
nothing else that happens to the session touches it: instructions only ask which
keys are down.  A release that does not count is told as stale, and no other
notice is.

## Main definitions

* `Keypad.takeAll`: a keypad after events
* `Keypad.AcceptsAll`: all releases among the events count
* `keyEvents`: the key events among what happens to a session

## Main results

* `Session.keypad_occurAll`: a session's keypad is what its key events make it
* `Session.not_stale_of_acceptsAll`: if all releases count, none is told as stale
-/

namespace Chip8

/-- Something holds of every release among some events and of the events before it. -/
def EachRelease (P : List KeyEvent → UInt8 → UInt64 → Prop) (events : List KeyEvent) : Prop :=
  ∀ before code generation after, events = before ++ .up code generation :: after →
    P before code generation

theorem EachRelease.imp {P Q : List KeyEvent → UInt8 → UInt64 → Prop} {events : List KeyEvent}
    (h : EachRelease P events) (hpq : ∀ before code generation, P before code generation →
      Q before code generation) : EachRelease Q events :=
  fun before code generation after hsplit => hpq _ _ _ (h before code generation after hsplit)

theorem eachRelease_nil (P : List KeyEvent → UInt8 → UInt64 → Prop) : EachRelease P [] :=
  fun before _ _ _ hsplit => absurd hsplit.symm (by simp)

/-- One event more is looked at only if it is a release. -/
theorem EachRelease.snoc {P : List KeyEvent → UInt8 → UInt64 → Prop} {events : List KeyEvent}
    (h : EachRelease P events) {e : KeyEvent}
    (he : ∀ code generation, e = .up code generation → P events code generation) :
    EachRelease P (events ++ [e]) := by
  intro before code generation after hsplit
  -- The release is the new event, or it was there before.
  rcases List.eq_nil_or_concat after with rfl | ⟨after, last, rfl⟩
  · obtain ⟨rfl, hlast⟩ := List.append_inj' hsplit rfl
    exact he code generation (List.singleton_inj.mp hlast)
  · rw [List.concat_eq_append, ← List.cons_append, ← List.append_assoc] at hsplit
    exact h before code generation after (List.append_inj' hsplit rfl).1

/-- Who stops early has seen only such releases as well. -/
theorem EachRelease.earlier {P : List KeyEvent → UInt8 → UInt64 → Prop}
    {events seen : List KeyEvent} (h : EachRelease P events) (hseen : seen <+: events) :
    EachRelease P seen := by
  obtain ⟨rest, rfl⟩ := hseen
  intro before code generation after hsplit
  refine h before code generation (after ++ rest) ?_
  rw [hsplit, List.append_assoc]
  rfl

namespace Keypad

/-- A keypad after an event. -/
def take (p : Keypad) : KeyEvent → Keypad
  | .down code generation => p.press code generation
  | .up code generation => (p.release code generation).2
  | .quit => p

/-- A keypad after one event after the other. -/
def takeAll (p : Keypad) (events : List KeyEvent) : Keypad :=
  events.foldl take p

theorem takeAll_append (p : Keypad) (first rest : List KeyEvent) :
    p.takeAll (first ++ rest) = (p.takeAll first).takeAll rest :=
  List.foldl_append

/-- Every release among some events counts when its turn comes. -/
def AcceptsAll (p : Keypad) (events : List KeyEvent) : Prop :=
  EachRelease (fun before code generation =>
    ((p.takeAll before).release code generation).1 = true) events

theorem AcceptsAll.head {p : Keypad} {code : UInt8} {generation : UInt64} {rest : List KeyEvent}
    (h : p.AcceptsAll (.up code generation :: rest)) : (p.release code generation).1 = true :=
  h [] code generation rest rfl

theorem AcceptsAll.tail {p : Keypad} {e : KeyEvent} {rest : List KeyEvent}
    (h : p.AcceptsAll (e :: rest)) : (p.take e).AcceptsAll rest :=
  fun before code generation after hsplit =>
    h (e :: before) code generation after (congrArg (e :: ·) hsplit)

end Keypad

/-- The key events among what happens to a session. -/
def keyEvents : List Occurrence → List KeyEvent
  | [] => []
  | .key e :: rest => e :: keyEvents rest
  | _ :: rest => keyEvents rest

namespace Session

variable {δ : Type}

theorem keypad_advance (s : Session δ) : s.advance.1.machine.keypad = s.machine.keypad := by
  unfold advance
  split
  · rfl
  · unfold absorb
    split
    · exact Machine.keypad_step s.machine
    · exact Machine.keypad_step s.machine

/-- What an instruction tick tells of is its step, and that it halts the session. -/
theorem mem_advance_notices {s : Session δ} {n : Notice} (h : n ∈ s.advance.2) :
    (∃ target site, n = .routineIgnored target site) ∨ (∃ w site, n = .unsupported w site) ∨
      ∃ site fault, n = .halting site fault := by
  unfold advance at h
  split at h
  · exact absurd h List.not_mem_nil
  · have hstep : n ∈ s.machine.step.notices ∨ ∃ site fault, n = .halting site fault := by
      unfold absorb at h
      split at h
      · exact .inl h
      · rcases List.mem_append.mp h with hs | hh
        · exact .inl hs
        · exact .inr ⟨_, _, List.mem_singleton.mp hh⟩
    rcases hstep with hs | hh
    · rcases Machine.mem_step_notices hs with hignored | hunsupported
      · exact .inl hignored
      · exact .inr (.inl hunsupported)
    · exact .inr (.inr hh)

theorem keypad_handle (s : Session δ) (e : KeyEvent) :
    (s.handle e).session.machine.keypad = s.machine.keypad.take e := by
  cases e with
  | down code generation => rfl
  | up code generation => rfl
  | quit => rfl

variable [Display δ]

/-- **A session's keypad is what its key events make it**, whatever happens between them. -/
theorem keypad_occurAll (s : Session δ) (os : List Occurrence) :
    (s.occurAll os).1.machine.keypad = s.machine.keypad.takeAll (keyEvents os) := by
  induction os generalizing s with
  | nil => rfl
  | cons o rest ih =>
    rw [occurAll_cons, ih]
    cases o with
    | instruction => exact congrArg (Keypad.takeAll · (keyEvents rest)) (keypad_advance s)
    | timer => rfl
    | key e => exact congrArg (Keypad.takeAll · (keyEvents rest)) (keypad_handle s e)

/-- **If all releases count, none is told as stale.** -/
theorem not_stale_of_acceptsAll {s : Session δ} {os : List Occurrence}
    (h : s.machine.keypad.AcceptsAll (keyEvents os)) (code : UInt8) :
    Notice.staleRelease code ∉ (s.occurAll os).2 := by
  induction os generalizing s with
  | nil => exact List.not_mem_nil
  | cons o rest ih =>
    rw [occurAll_cons]
    intro hmem
    rcases List.mem_append.mp hmem with hnow | hlater
    · cases o with
      | instruction =>
        rcases mem_advance_notices hnow with ⟨_, _, he⟩ | ⟨_, _, he⟩ | ⟨_, _, he⟩
        · cases he
        · cases he
        · cases he
      | timer => exact List.not_mem_nil hnow
      | key e =>
        cases e with
        | down c g => exact List.not_mem_nil hnow
        | up c g =>
          have hcounts : (s.machine.keyUp c g).1 = true := h.head
          have htold : (s.handle (.up c g)).notices = [] := if_pos hcounts
          rw [occur, htold] at hnow
          exact List.not_mem_nil hnow
        | quit => exact List.not_mem_nil hnow
    · refine ih ?_ hlater
      cases o with
      | instruction =>
        show (s.instructionTick.session.machine.keypad).AcceptsAll (keyEvents rest)
        have hsame : s.instructionTick.session.machine.keypad = s.machine.keypad :=
          keypad_advance s
        rw [hsame]
        exact h
      | timer => exact h
      | key e =>
        show ((s.handle e).session.machine.keypad).AcceptsAll (keyEvents rest)
        rw [keypad_handle]
        exact h.tail

end Session

end Chip8
