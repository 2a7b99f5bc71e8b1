import Chip8.Keyboard.Basic
import Mathlib.Data.List.Basic

/-!
# Calls on a keyboard

A keyboard is told of host events and is asked to expire, in any order and at
any times.  A call may send several key events, since expiring looks at one key
after the other and sends an event for each that goes up.  What happens between
two of them is seen when calls are taken apart into acts, none of which sends
more than one event: receiving a host event is an act, and so is each look at a
key.

## Main definitions

* `Keyboard.Call`, `Keyboard.callAll`: calls and what they send
* `Keyboard.Act`, `Keyboard.actAll`: the acts that calls consist of
* `Keyboard.whenSent`: the keyboard at the moment an event was sent
* `Keyboard.Change`: what an act can do

## Main results

* `Keyboard.callAll_eq_actAll`: calls do what their acts do
* `Keyboard.whenSent_eq`: an event is sent between two acts
* `Keyboard.change_act`: an act does nothing, asks to quit, begins a hold or
  ends one
-/

namespace Chip8.Keyboard

/-- Something that a keyboard is called for. -/
inductive Call
  /-- A host event is received. -/
  | receive (event : HostEvent) (now : Nat)
  /-- Holds that are over are ended. -/
  | expire (now : Nat)
  deriving DecidableEq, Repr

/-- The keyboard after a call, and the events that it sent. -/
def call (b : Keyboard) : Call → Keyboard × List KeyEvent
  | .receive event now => ((b.receive event now).keyboard, (b.receive event now).event.toList)
  | .expire now => b.expire now

/-- The keyboard after one call after the other, and the events that they sent. -/
def callAll (b : Keyboard) : List Call → Keyboard × List KeyEvent
  | [] => (b, [])
  | c :: rest =>
    let (b, sent) := b.call c
    let (b, further) := b.callAll rest
    (b, sent ++ further)

/-- A part of a call. -/
inductive Act
  /-- A host event is received. -/
  | receive (event : HostEvent) (now : Nat)
  /-- The hold of a key is ended if it is over. -/
  | visit (now : Nat) (k : Key)

/-- What comes of an act. -/
def act (b : Keyboard) : Act → Reaction
  | .receive event now => b.receive event now
  | .visit now k => if b.isOver now k then b.release k else { keyboard := b }

/-- The keyboard after one act after the other, and the events that they sent. -/
def actAll (b : Keyboard) : List Act → Keyboard × List KeyEvent
  | [] => (b, [])
  | a :: rest =>
    let (after, further) := (b.act a).keyboard.actAll rest
    (after, (b.act a).event.toList ++ further)

/-- The acts of a call: to expire is to visit every key, from the lowest up. -/
def Call.acts : Call → List Act
  | .receive event now => [.receive event now]
  | .expire now => (List.finRange 16).map (.visit now)

/-- The keyboard at the moment it had sent so many events, or after all acts if they send fewer. -/
def whenSent (b : Keyboard) : List Act → Nat → Keyboard
  | _, 0 => b
  | [], _ + 1 => b
  | a :: rest, n + 1 =>
    match (b.act a).event with
    | some _ => (b.act a).keyboard.whenSent rest n
    | none => (b.act a).keyboard.whenSent rest (n + 1)

theorem callAll_cons (b : Keyboard) (c : Call) (rest : List Call) :
    b.callAll (c :: rest) =
      (((b.call c).1.callAll rest).1, (b.call c).2 ++ ((b.call c).1.callAll rest).2) := rfl

theorem actAll_cons (b : Keyboard) (a : Act) (rest : List Act) :
    b.actAll (a :: rest) =
      (((b.act a).keyboard.actAll rest).1,
        (b.act a).event.toList ++ ((b.act a).keyboard.actAll rest).2) := rfl

theorem actAll_append (b : Keyboard) (first rest : List Act) :
    b.actAll (first ++ rest) =
      (((b.actAll first).1.actAll rest).1,
        (b.actAll first).2 ++ ((b.actAll first).1.actAll rest).2) := by
  induction first generalizing b with
  | nil => rfl
  | cons a first ih =>
    rw [List.cons_append, actAll_cons, actAll_cons, ih, List.append_assoc]

/-- The moment an event was sent is one between two acts, and what had been sent by then is the
first part of all that they send. -/
theorem whenSent_eq (b : Keyboard) (acts : List Act) (n : Nat) :
    ∃ done, done <+: acts ∧ b.whenSent acts n = (b.actAll done).1 ∧
      (b.actAll done).2 = (b.actAll acts).2.take n := by
  induction acts generalizing b n with
  | nil => exact ⟨[], List.nil_prefix, by cases n <;> rfl, List.take_nil.symm⟩
  | cons a rest ih =>
    cases n with
    | zero => exact ⟨[], List.nil_prefix, rfl, rfl⟩
    | succ n =>
      cases he : (b.act a).event with
      | some e =>
        obtain ⟨done, hdone, hb, hsent⟩ := ih (b.act a).keyboard n
        refine ⟨a :: done, List.cons_prefix_cons.mpr ⟨rfl, hdone⟩, ?_, ?_⟩
        · rw [whenSent, he, actAll_cons]
          exact hb
        · rw [actAll_cons, actAll_cons, he, hsent]
          rfl
      | none =>
        obtain ⟨done, hdone, hb, hsent⟩ := ih (b.act a).keyboard (n + 1)
        refine ⟨a :: done, List.cons_prefix_cons.mpr ⟨rfl, hdone⟩, ?_, ?_⟩
        · rw [whenSent, he, actAll_cons]
          exact hb
        · rw [actAll_cons, actAll_cons, he, hsent]
          rfl

/-! ## Holds that begin and end -/

theorem get_held_strike (b : Keyboard) (k j : Key) (now : Nat) :
    (b.strike k now).keyboard.held.get j =
      if j = k then some ⟨now + b.holdTime, b.nextGeneration⟩ else b.held.get j :=
  Bank.get_set ..

theorem get_held_letGo (b : Keyboard) (k j : Key) :
    (b.letGo k).held.get j = if j = k then none else b.held.get j :=
  Bank.get_set ..

/-! ## Expiring is visiting every key -/

theorem ending?_eq_none {b : Keyboard} {now : Nat} {k : Key} (h : b.isOver now k = false) :
    b.ending? now k = none := by
  unfold ending?
  unfold isOver at h
  split
  · next hold hk =>
    rw [hk] at h
    exact if_neg (of_decide_eq_false h)
  · rfl

/-- A hold that is over ends with the release of its key. -/
theorem release_of_isOver {b : Keyboard} {now : Nat} {k : Key} (h : b.isOver now k = true) :
    b.release k = { keyboard := b.letGo k, event := b.ending? now k } := by
  unfold isOver at h
  unfold release ending?
  split
  · next hold hk =>
    rw [hk] at h
    exact congrArg (Reaction.mk (b.letGo k) · []) (if_pos (of_decide_eq_true h)).symm
  · next hk =>
    rw [hk] at h
    cases h

theorem get_held_letGo_of_ne (b : Keyboard) {k j : Key} (h : j ≠ k) :
    (b.letGo k).held.get j = b.held.get j := by
  rw [get_held_letGo, if_neg h]

theorem isOver_letGo_of_ne (b : Keyboard) (now : Nat) {k j : Key} (h : j ≠ k) :
    (b.letGo k).isOver now j = b.isOver now j := by
  rw [isOver, isOver, get_held_letGo_of_ne b h]

theorem ending?_letGo_of_ne (b : Keyboard) (now : Nat) {k j : Key} (h : j ≠ k) :
    (b.letGo k).ending? now j = b.ending? now j := by
  rw [ending?, ending?, get_held_letGo_of_ne b h]

/-- The keyboard with the holds of some keys ended that are over. -/
def expireOf (b : Keyboard) (now : Nat) (ks : List Key) : Keyboard :=
  { b with held := Bank.ofFn fun k => if k ∈ ks ∧ b.isOver now k then none else b.held.get k }

theorem expireOf_nil (b : Keyboard) (now : Nat) : b.expireOf now [] = b := by
  have hheld : (b.expireOf now []).held = b.held := by
    apply Bank.ext_get
    intro k
    rw [expireOf, Bank.get_ofFn]
    exact if_neg fun h => List.not_mem_nil h.1
  exact congrArg (Keyboard.mk b.keymap b.holdTime b.nextGeneration) hheld

/-- A key whose hold is not over might as well not be visited. -/
theorem expireOf_cons_of_not_isOver {b : Keyboard} {now : Nat} {k : Key}
    (h : b.isOver now k = false) (ks : List Key) : b.expireOf now (k :: ks) = b.expireOf now ks := by
  have hheld : (b.expireOf now (k :: ks)).held = (b.expireOf now ks).held := by
    apply Bank.ext_get
    intro j
    rw [expireOf, expireOf, Bank.get_ofFn, Bank.get_ofFn]
    by_cases hj : j = k
    · subst hj
      rw [h]
      simp
    · simp [hj]
  exact congrArg (Keyboard.mk b.keymap b.holdTime b.nextGeneration) hheld

/-- A key whose hold is over might as well be let go at once. -/
theorem expireOf_cons_of_isOver {b : Keyboard} {now : Nat} {k : Key} (h : b.isOver now k = true)
    {ks : List Key} (hk : k ∉ ks) :
    b.expireOf now (k :: ks) = (b.letGo k).expireOf now ks := by
  have hheld : (b.expireOf now (k :: ks)).held = ((b.letGo k).expireOf now ks).held := by
    apply Bank.ext_get
    intro j
    rw [expireOf, expireOf, Bank.get_ofFn, Bank.get_ofFn]
    by_cases hj : j = k
    · subst hj
      simp [h, hk, get_held_letGo]
    · rw [isOver_letGo_of_ne b now hj, get_held_letGo_of_ne b hj]
      simp [hj]
  exact congrArg (Keyboard.mk b.keymap b.holdTime b.nextGeneration) hheld

/-- Visits to different keys end those of their holds that are over. -/
theorem actAll_visits (b : Keyboard) (now : Nat) {ks : List Key} (hks : ks.Nodup) :
    b.actAll (ks.map (.visit now)) = (b.expireOf now ks, ks.filterMap (b.ending? now)) := by
  induction ks generalizing b with
  | nil =>
    rw [expireOf_nil]
    rfl
  | cons k ks ih =>
    obtain ⟨hk, hrest⟩ := List.nodup_cons.mp hks
    rw [List.map_cons, actAll_cons]
    by_cases hover : b.isOver now k = true
    · -- The keys still to be visited are others, so they do not notice that this one went up.
      have hact : b.act (.visit now k) = { keyboard := b.letGo k, event := b.ending? now k } := by
        rw [act, if_pos hover, release_of_isOver hover]
      have hsame : ks.filterMap ((b.letGo k).ending? now) = ks.filterMap (b.ending? now) :=
        List.filterMap_congr fun j hj =>
          ending?_letGo_of_ne b now (fun he => hk (he ▸ hj))
      rw [hact, ih (b.letGo k) hrest, expireOf_cons_of_isOver hover hk, hsame, List.filterMap_cons]
      cases b.ending? now k with
      | none => rfl
      | some e => rfl
    · have hnot : b.isOver now k = false := eq_false_of_ne_true hover
      have hact : b.act (.visit now k) = { keyboard := b } := by rw [act, if_neg hover]
      rw [hact, ih b hrest, expireOf_cons_of_not_isOver hnot,
        List.filterMap_cons_none (ending?_eq_none hnot)]
      rfl

/-- A call does what its acts do. -/
theorem call_eq_actAll (b : Keyboard) (c : Call) : b.call c = b.actAll c.acts := by
  cases c with
  | receive event now =>
    show _ = ((b.receive event now).keyboard, (b.receive event now).event.toList ++ [])
    rw [List.append_nil]
    rfl
  | expire now =>
    have hall : b.expireOf now (List.finRange 16) = (b.expire now).1 := by
      unfold expireOf expire
      simp only [List.mem_finRange, true_and]
    rw [Call.acts, actAll_visits b now (List.nodup_finRange 16), hall]
    rfl

/-- **Calls do what their acts do**, one after the other. -/
theorem callAll_eq_actAll (b : Keyboard) (calls : List Call) :
    b.callAll calls = b.actAll (calls.flatMap Call.acts) := by
  induction calls generalizing b with
  | nil => rfl
  | cons c rest ih =>
    rw [callAll_cons, List.flatMap_cons, actAll_append, call_eq_actAll, ih]

theorem callAll_append (b : Keyboard) (first rest : List Call) :
    b.callAll (first ++ rest) =
      (((b.callAll first).1.callAll rest).1,
        (b.callAll first).2 ++ ((b.callAll first).1.callAll rest).2) := by
  rw [callAll_eq_actAll, List.flatMap_append, actAll_append, ← callAll_eq_actAll,
    ← callAll_eq_actAll]

/-! ## What an act can do -/

/-- What an act can do to a keyboard, and what it then sends. -/
inductive Change (b : Keyboard) : Keyboard → Option KeyEvent → Prop
  | none : Change b b none
  | quit : Change b b (some .quit)
  | strike (k : Key) (now : Nat) :
      Change b (b.strike k now).keyboard (some (.down k.code b.nextGeneration))
  | letGo (k : Key) (hold : Hold) (h : b.held.get k = some hold) :
      Change b (b.letGo k) (some (.up k.code hold.generation))

theorem change_release (b : Keyboard) (k : Key) :
    Change b (b.release k).keyboard (b.release k).event := by
  unfold release
  split
  · next hold h => exact .letGo k hold h
  · exact .none

theorem change_strokeChar (b : Keyboard) (c : Char) (stroke : Stroke) (now : Nat) :
    Change b (b.strokeChar c stroke now).keyboard (b.strokeChar c stroke now).event := by
  unfold strokeChar
  split
  · exact .none
  · next k _ =>
    cases stroke with
    | release => exact change_release b k
    | press => exact .strike k now
    | again => exact .strike k now

theorem change_receive (b : Keyboard) (event : HostEvent) (now : Nat) :
    Change b (b.receive event now).keyboard (b.receive event now).event := by
  unfold receive
  split
  · split
    · exact .quit
    · exact change_strokeChar b _ _ now
  · exact .quit
  · exact .none
  · exact .none

/-- **An act** does nothing, passes on the wish to stop, begins a hold or ends one. -/
theorem change_act (b : Keyboard) (a : Act) : Change b (b.act a).keyboard (b.act a).event := by
  cases a with
  | receive event now => exact change_receive b event now
  | visit now k =>
    rw [act]
    split
    · exact change_release b k
    · exact .none

end Chip8.Keyboard
