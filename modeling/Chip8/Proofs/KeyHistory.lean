import Chip8.Proofs.Delivery
import Chip8.Proofs.FaultRules
import Mathlib.Data.List.Induction

/-!
# Keypads and their history

Whether a key is down can be told from the events that a keypad took in, without
knowing the keypad: the latest press of the key decides, together with the
releases of the key that came after it and named its generation.  Releases that
came earlier, or name another generation, have no say, in whatever order they
arrive.

An event looks at its own key and at no other.  So events of different keys can
change places, and neither the keypad in the end nor the answers to the events
tell.

## Main definitions

* `KeyEvent.key?`, `KeyEvent.Spares`: what an event is about
* `Keypad.PressedSince`: a key was pressed, and that press still holds
* `Keypad.answer?`: what a keypad answers to an event
* `Keypad.FollowsHistory`: a keypad is what its events made it

## Main results

* `Keypad.get_takeAll_iff`: which keys are down, and in which generation
* `Keypad.take_comm`, `Keypad.answer?_take`: events of different keys
* `Keypad.followsHistory`: keypads are what their events made them
-/

namespace Chip8

/-- The latest of a kind, `P`, with all that follows of another kind, `Q`: if there is one member
more, it is of the first kind itself, or it is of the second. -/
theorem exists_latest_snoc_iff {α : Type} {P Q : α → Prop} (l : List α) (x : α) :
    (∃ before a after, l ++ [x] = before ++ a :: after ∧ P a ∧ ∀ b ∈ after, Q b) ↔
      P x ∨ ((∃ before a after, l = before ++ a :: after ∧ P a ∧ ∀ b ∈ after, Q b) ∧ Q x) := by
  constructor
  · rintro ⟨before, a, after, hsplit, ha, hafter⟩
    rcases List.eq_nil_or_concat after with rfl | ⟨after, last, rfl⟩
    · obtain ⟨-, hlast⟩ := List.append_inj' hsplit rfl
      exact .inl (List.singleton_inj.mp hlast ▸ ha)
    · rw [List.concat_eq_append] at hsplit hafter
      rw [← List.cons_append, ← List.append_assoc] at hsplit
      obtain ⟨hl, hlast⟩ := List.append_inj' hsplit rfl
      obtain rfl := List.singleton_inj.mp hlast
      obtain ⟨hafter, hx⟩ := List.forall_mem_append.mp hafter
      exact .inr ⟨⟨before, a, after, hl, ha, hafter⟩, hx x (List.mem_singleton_self x)⟩
  · rintro (hx | ⟨⟨before, a, after, rfl, ha, hafter⟩, hx⟩)
    · exact ⟨l, x, [], rfl, hx, fun b hb => absurd hb List.not_mem_nil⟩
    · refine ⟨before, a, after ++ [x], by simp, ha, List.forall_mem_append.mpr ⟨hafter, ?_⟩⟩
      intro b hb
      rwa [List.mem_singleton.mp hb]

namespace KeyEvent

/-- The key that an event is about. -/
def key? : KeyEvent → Option Key
  | .down code _ => some (Key.ofCode code)
  | .up code _ => some (Key.ofCode code)
  | .quit => none

/-- An event is neither a press of a key nor a release that names a generation of it. -/
def Spares (k : Key) (g : UInt64) : KeyEvent → Prop
  | .down code _ => Key.ofCode code ≠ k
  | .up code generation => ¬ (Key.ofCode code = k ∧ generation = g)
  | .quit => True

end KeyEvent

namespace Keypad

/-! ## Which keys are down -/

/-- The latest press of a key among some events was in a generation, and no release of the key
after it named that. -/
def PressedSince (events : List KeyEvent) (k : Key) (g : UInt64) : Prop :=
  ∃ before code after, events = before ++ .down code g :: after ∧ Key.ofCode code = k ∧
    ∀ e ∈ after, e.Spares k g

theorem pressedSince_iff (events : List KeyEvent) (k : Key) (g : UInt64) :
    PressedSince events k g ↔ ∃ before e after, events = before ++ e :: after ∧
      (∃ code, e = .down code g ∧ Key.ofCode code = k) ∧ ∀ e ∈ after, e.Spares k g := by
  constructor
  · rintro ⟨before, code, after, hsplit, hk, hspares⟩
    exact ⟨before, _, after, hsplit, ⟨code, rfl, hk⟩, hspares⟩
  · rintro ⟨before, _, after, hsplit, ⟨code, rfl, hk⟩, hspares⟩
    exact ⟨before, code, after, hsplit, hk, hspares⟩

theorem not_pressedSince_nil (k : Key) (g : UInt64) : ¬ PressedSince [] k g := by
  rintro ⟨before, code, after, hsplit, -⟩
  simp at hsplit

/-- One event more is a press of the key itself, or it spares an earlier one. -/
theorem pressedSince_snoc_iff (events : List KeyEvent) (e : KeyEvent) (k : Key) (g : UInt64) :
    PressedSince (events ++ [e]) k g ↔
      (∃ code, e = .down code g ∧ Key.ofCode code = k) ∨
        (PressedSince events k g ∧ e.Spares k g) := by
  rw [pressedSince_iff, pressedSince_iff]
  exact exists_latest_snoc_iff events e

variable (p : Keypad)

theorem get_press (code : UInt8) (g : UInt64) (k : Key) :
    (p.press code g).keys.get k = if k = Key.ofCode code then ⟨true, g⟩ else p.keys.get k :=
  Bank.get_set p.keys _ k _

theorem accepts_iff (code : UInt8) (g : UInt64) :
    p.accepts code g = true ↔ p.keys.get (Key.ofCode code) = ⟨true, g⟩ := by
  unfold accepts isDown
  cases p.keys.get (Key.ofCode code) with
  | mk pressed generation => simp

/-- A release lets its key go if it names the generation of the press, and does nothing else. -/
theorem get_release (code : UInt8) (g : UInt64) (k : Key) :
    (p.release code g).2.keys.get k =
      if k = Key.ofCode code ∧ p.keys.get k = ⟨true, g⟩ then ⟨false, g⟩ else p.keys.get k := by
  unfold release
  by_cases ha : p.accepts code g = true
  · rw [if_pos ha]
    rw [accepts_iff] at ha
    show (p.keys.set (Key.ofCode code) _).get k = _
    rw [Bank.get_set]
    by_cases hk : k = Key.ofCode code
    · rw [if_pos hk, if_pos ⟨hk, hk ▸ ha⟩]
    · rw [if_neg hk, if_neg fun h => hk h.1]
  · rw [if_neg ha]
    rw [accepts_iff] at ha
    have hnot : ¬ (k = Key.ofCode code ∧ p.keys.get k = ⟨true, g⟩) := by
      rintro ⟨rfl, h⟩
      exact ha h
    rw [if_neg hnot]

/-- **One event**: a key is down in a generation if it is pressed in it now, or was so before and
the event spares it. -/
theorem get_take_iff (e : KeyEvent) (k : Key) (g : UInt64) :
    (p.take e).keys.get k = ⟨true, g⟩ ↔
      (∃ code, e = .down code g ∧ Key.ofCode code = k) ∨
        (p.keys.get k = ⟨true, g⟩ ∧ e.Spares k g) := by
  cases e with
  | down code generation =>
    show (p.press code generation).keys.get k = _ ↔ _
    rw [get_press]
    by_cases hk : Key.ofCode code = k
    · rw [if_pos hk.symm]
      constructor
      · intro h
        obtain rfl : generation = g := congrArg KeyState.generation h
        exact .inl ⟨code, rfl, hk⟩
      · rintro (⟨c, he, -⟩ | ⟨-, hspares⟩)
        · rw [(KeyEvent.down.inj he).2]
        · exact absurd hk hspares
    · simp [hk, Ne.symm hk, KeyEvent.Spares]
  | up code generation =>
    show (p.release code generation).2.keys.get k = _ ↔ _
    rw [get_release]
    by_cases hk : Key.ofCode code = k
    · subst hk
      by_cases hdown : p.keys.get (Key.ofCode code) = ⟨true, generation⟩
      · -- The release counts, and no other generation of the key can be down.
        simp [hdown, KeyEvent.Spares]
      · have hspares : p.keys.get (Key.ofCode code) = ⟨true, g⟩ → ¬ generation = g := by
          rintro h rfl
          exact hdown h
        simpa [hdown, KeyEvent.Spares] using hspares
    · simp [hk, Ne.symm hk, KeyEvent.Spares]
  | quit => simp [take, KeyEvent.Spares]

/-- **Which keys are down, and in which generation**, after any events. -/
theorem get_takeAll_iff (events : List KeyEvent) (k : Key) (g : UInt64) :
    (fresh.takeAll events).keys.get k = ⟨true, g⟩ ↔ PressedSince events k g := by
  induction events using List.reverseRecOn with
  | nil =>
    have hup : (fresh.keys.get k) = {} := Bank.get_replicate _ k
    show fresh.keys.get k = _ ↔ _
    rw [hup]
    exact iff_of_false nofun (not_pressedSince_nil k g)
  | append_singleton events e ih =>
    rw [takeAll_append, pressedSince_snoc_iff, ← ih]
    exact get_take_iff (fresh.takeAll events) e k g

theorem isDown_iff (k : Key) : p.isDown k = true ↔ ∃ g, p.keys.get k = ⟨true, g⟩ := by
  unfold isDown
  cases p.keys.get k with
  | mk pressed generation => simp

/-! ## Releases -/

/-- What becomes of the bits of a keypad under a release. -/
structure Releases (code : UInt8) (g : UInt64) : Prop where
  /-- The release counts exactly if it clears a bit that was set. -/
  counts_iff : (p.release code g).1 = true ↔
    p.mask.toNat.testBit (Key.ofCode code).val = true ∧
      (p.release code g).2.mask.toNat.testBit (Key.ofCode code).val = false
  other_bits : ∀ k, k ≠ Key.ofCode code →
    (p.release code g).2.mask.toNat.testBit k.val = p.mask.toNat.testBit k.val
  generation_eq : ∀ k, ((p.release code g).2.keys.get k).generation = (p.keys.get k).generation
  eq_of_stale : (p.release code g).1 = false → (p.release code g).2 = p

theorem releases (code : UInt8) (g : UInt64) : p.Releases code g where
  counts_iff := by
    rw [testBit_mask, testBit_mask, fst_release, isDown_release]
    have hdown : p.accepts code g = true → p.isDown (Key.ofCode code) = true := by
      unfold accepts
      simp only [Bool.and_eq_true]
      exact And.left
    cases ha : p.accepts code g with
    | false => simp
    | true => simp [hdown ha]
  other_bits k hk := by
    rw [testBit_mask, testBit_mask, isDown_release, decide_eq_false hk]
    simp
  generation_eq k := by
    rw [get_release]
    split
    · next h => rw [h.2]
    · rfl
  eq_of_stale h := by
    rw [fst_release] at h
    unfold release
    rw [h]
    rfl

/-! ## Events of different keys -/

/-- What a keypad answers to an event: to a release, whether it counts. -/
def answer? : KeyEvent → Option Bool
  | .up code generation => some (p.release code generation).1
  | _ => none

variable {p}

/-- An event touches no key but its own. -/
theorem get_take_of_ne {e : KeyEvent} {k : Key} (h : e.key? ≠ some k) :
    (p.take e).keys.get k = p.keys.get k := by
  cases e with
  | down code generation =>
    have hk : k ≠ Key.ofCode code := by
      rintro rfl
      exact h rfl
    exact (get_press p code generation k).trans (if_neg hk)
  | up code generation =>
    have hk : k ≠ Key.ofCode code := by
      rintro rfl
      exact h rfl
    exact (get_release p code generation k).trans (if_neg fun hc => hk hc.1)
  | quit => rfl

/-- What becomes of a key is decided by its own state. -/
theorem get_take_congr {q : Keypad} {k : Key} (h : p.keys.get k = q.keys.get k) (e : KeyEvent) :
    (p.take e).keys.get k = (q.take e).keys.get k := by
  cases e with
  | down code generation =>
    show (p.press code generation).keys.get k = (q.press code generation).keys.get k
    rw [get_press, get_press, h]
  | up code generation =>
    show (p.release code generation).2.keys.get k = (q.release code generation).2.keys.get k
    rw [get_release, get_release, h]
  | quit => exact h

/-- **Events of different keys can change places.** -/
theorem take_comm (p : Keypad) {e e' : KeyEvent} (h : e.key? ≠ e'.key?) :
    (p.take e).take e' = (p.take e').take e := by
  have hkeys : ((p.take e).take e').keys = ((p.take e').take e).keys := by
    apply Bank.ext_get
    intro k
    -- One of the two events is not about `k`, so the other meets it as it was.
    by_cases hk : e.key? = some k
    · have hk' : e'.key? ≠ some k := fun hc => h (hk.trans hc.symm)
      rw [get_take_of_ne hk']
      exact get_take_congr (get_take_of_ne hk').symm e
    · rw [get_take_of_ne hk]
      exact get_take_congr (get_take_of_ne hk) e'
  exact congrArg Keypad.mk hkeys

/-- The answer to an event is not changed by an event of another key. -/
theorem answer?_take (p : Keypad) {e e' : KeyEvent} (h : e.key? ≠ e'.key?) :
    (p.take e).answer? e' = p.answer? e' := by
  cases e' with
  | up code generation =>
    have hsame : (p.take e).keys.get (Key.ofCode code) = p.keys.get (Key.ofCode code) :=
      get_take_of_ne h
    show some _ = some _
    rw [fst_release, fst_release]
    unfold accepts isDown
    rw [hsame]
  | _ => rfl

/-! ## The lowest key -/

theorem isPressed_code (p : Keypad) (k : Key) : p.isPressed k.code = p.isDown k := by
  have hk : k.code.toNat = k.val := by
    have hlt := k.isLt
    show k.val % 256 = k.val
    omega
  unfold isPressed
  rw [dif_pos (hk ▸ k.isLt)]
  exact congrArg p.isDown (Fin.ext hk)

/-- Codes above fifteen name no key. -/
theorem isPressed_of_lt (p : Keypad) {code : UInt8} (h : 15 < code.toNat) :
    p.isPressed code = false := by
  unfold isPressed
  rw [dif_neg (by omega)]

theorem first?_eq_some_iff (p : Keypad) (k : Key) :
    p.first? = some k ↔
      p.isPressed k.code = true ∧ ∀ j : Key, p.isPressed j.code = true → k ≤ j := by
  simp only [isPressed_code, first?, List.find?_eq_some_iff_getElem, List.getElem_finRange]
  constructor
  · rintro ⟨hdown, i, hi, rfl, hlower⟩
    refine ⟨hdown, fun j hj => Fin.not_lt.mp fun hlt => ?_⟩
    have hup : (!p.isDown j) = true := hlower j.val hlt
    rw [hj] at hup
    cases hup
  · rintro ⟨hdown, hleast⟩
    refine ⟨hdown, k.val, by simp, rfl, fun j hj => ?_⟩
    have hj16 : j < 16 := Nat.lt_trans hj k.isLt
    have hnot : ¬ p.isDown ⟨j, hj16⟩ = true := fun hc => Nat.not_le.mpr hj (hleast ⟨j, hj16⟩ hc)
    simpa using hnot

/-! ## The history of a keypad -/

/-- A keypad is what its events made it, and goes on as these say. -/
structure FollowsHistory (events : List KeyEvent) : Prop where
  /-- The bit of a key is set exactly if the key was pressed, and not released since in the
  generation of its latest press. -/
  bit_iff : ∀ k : Key, (fresh.takeAll events).mask.toNat.testBit k.val = true ↔
    ∃ g, PressedSince events k g
  releases : ∀ code g, (fresh.takeAll events).Releases code g
  /-- Two events of different keys that come next can change places, whatever follows. -/
  swap_eq : ∀ (e e' : KeyEvent) (rest : List KeyEvent), e.key? ≠ e'.key? →
    fresh.takeAll (events ++ e :: e' :: rest) = fresh.takeAll (events ++ e' :: e :: rest)
  /-- Neither of them is answered differently. -/
  swap_answer : ∀ e e' : KeyEvent, e.key? ≠ e'.key? →
    ((fresh.takeAll events).take e').answer? e = (fresh.takeAll events).answer? e ∧
      ((fresh.takeAll events).take e).answer? e' = (fresh.takeAll events).answer? e'
  first_eq_some_iff : ∀ k, (fresh.takeAll events).first? = some k ↔
    (fresh.takeAll events).isPressed k.code = true ∧
      ∀ j : Key, (fresh.takeAll events).isPressed j.code = true → k ≤ j
  first_eq_none_iff : (fresh.takeAll events).first? = none ↔ (fresh.takeAll events).mask = 0
  isPressed_above : ∀ code : UInt8, 15 < code.toNat →
    (fresh.takeAll events).isPressed code = false

/-- **Keypads are what their events made them**, in whatever order these came, and whatever codes
and generations they named. -/
theorem followsHistory (events : List KeyEvent) : FollowsHistory events where
  bit_iff k := by
    rw [testBit_mask, isDown_iff]
    exact exists_congr (get_takeAll_iff events k)
  releases := (fresh.takeAll events).releases
  swap_eq e e' rest h := by
    rw [takeAll_append, takeAll_append]
    show (((fresh.takeAll events).take e).take e').takeAll rest = _
    rw [take_comm _ h]
    rfl
  swap_answer e e' h := ⟨answer?_take _ h.symm, answer?_take _ h⟩
  first_eq_some_iff := first?_eq_some_iff _
  first_eq_none_iff := first?_eq_none_iff _
  isPressed_above _ h := isPressed_of_lt _ h

example : (fresh.takeAll [.down 0x13 7, .up 3 5, .down 0x23 7, .up 0xF3 6]).isPressed 3 = true := by
  decide

end Keypad

end Chip8
