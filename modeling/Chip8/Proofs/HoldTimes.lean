import Chip8.Proofs.Calls
import Chip8.Proofs.KeyHistory
import Mathlib.Data.List.Forall2

/-!
# How long keys are held

Which keys a keyboard holds can be told from what the terminal reported, without
knowing the keyboard: right after the keyboard was asked to expire, a key is held
if the latest stroke of it was a strike and not a release, and that was less than
the hold time ago.  Earlier strikes have no say, nor when the keyboard was asked
to expire before, nor what other keys did.

The times of calls may be given in any order, as long as no call is of a later
time than the one at which the keyboard is asked to expire in the end.  A hold
that still runs then was running whenever it was asked before.

## Main definitions

* `HostEvent.Strokes`: strokes of characters that stand for a key
* `Keyboard.StruckSince`: a key was struck at a time, and that was its latest stroke
* `Keyboard.Timely`: a keyboard holds what its history says, and lets go of the rest

## Main results

* `Keyboard.struckSince_of_held`: whatever is held was struck, a hold time before
  its deadline
* `Keyboard.held_of_struckSince`: whatever was struck less than a hold time ago is held
* `Keyboard.timely_ofKeymap`: holds end in time
-/

namespace Chip8

/-! ## Strokes of a key -/

/-- An event is a stroke of a character that stands for a key.  A stroke that asks to quit is a
stroke of no key. -/
inductive HostEvent.Strokes (m : Keymap) (k : Key) (stroke : Stroke) : HostEvent → Prop
  | char {c : Char} {modifiers : Modifiers} (not_quit : ¬ (c = 'c' ∧ modifiers.control = true))
      (stands_for : m.key? c.toLower = some k) :
      Strokes m k stroke (.key (.char c) modifiers stroke)

namespace Keyboard

namespace Call

/-- When a call is made. -/
def time : Call → Nat
  | .receive _ now => now
  | .expire now => now

/-- A key is struck, for the first time or again. -/
def Strikes (m : Keymap) (k : Key) : Call → Prop
  | .receive event _ => event.Strokes m k .press ∨ event.Strokes m k .again
  | .expire _ => False

/-- The terminal reports that a key was let go. -/
def LetsGo (m : Keymap) (k : Key) : Call → Prop
  | .receive event _ => event.Strokes m k .release
  | .expire _ => False

end Call

/-- The latest strike of a key among some calls was at a time, and the key was not let go after
it. -/
def StruckSince (m : Keymap) (calls : List Call) (k : Key) (t : Nat) : Prop :=
  ∃ before c after, calls = before ++ c :: after ∧ (c.Strikes m k ∧ c.time = t) ∧
    ∀ c ∈ after, ¬ c.Strikes m k ∧ ¬ c.LetsGo m k

theorem not_struckSince_nil (m : Keymap) (k : Key) (t : Nat) : ¬ StruckSince m [] k t := by
  rintro ⟨before, c, after, hsplit, -⟩
  simp at hsplit

/-- One call more is a strike of the key itself, or no stroke of it. -/
theorem struckSince_snoc_iff (m : Keymap) (calls : List Call) (c : Call) (k : Key) (t : Nat) :
    StruckSince m (calls ++ [c]) k t ↔
      (c.Strikes m k ∧ c.time = t) ∨
        (StruckSince m calls k t ∧ ¬ c.Strikes m k ∧ ¬ c.LetsGo m k) :=
  exists_latest_snoc_iff calls c

/-- There is but one latest strike. -/
theorem StruckSince.unique {m : Keymap} {calls : List Call} {k : Key} {t t' : Nat}
    (h : StruckSince m calls k t) (h' : StruckSince m calls k t') : t = t' := by
  induction calls using List.reverseRecOn with
  | nil => exact absurd h (not_struckSince_nil m k t)
  | append_singleton calls c ih =>
    rw [struckSince_snoc_iff] at h h'
    rcases h with ⟨hc, rfl⟩ | ⟨h, hnot, -⟩
    · rcases h' with ⟨-, ht'⟩ | ⟨-, hnot, -⟩
      · exact ht'
      · exact absurd hc hnot
    · rcases h' with ⟨hc, -⟩ | ⟨h', -, -⟩
      · exact absurd hc hnot
      · exact ih h h'

/-! ## What a call does to a hold -/

section Receive

variable {b : Keyboard} {k : Key} {event : HostEvent}

/-- A stroke of a key strikes it or lets it go. -/
theorem receive_of_strokes {stroke : Stroke} (h : event.Strokes b.keymap k stroke) (now : Nat) :
    b.receive event now =
      match stroke with
      | .release => b.release k
      | .press | .again => b.strike k now := by
  obtain ⟨hquit, hkey⟩ := h
  rw [receive, if_neg hquit, strokeChar, hkey]
  cases stroke with
  | _ => rfl

theorem get_held_release (b : Keyboard) (k j : Key) :
    (b.release k).keyboard.held.get j = if j = k then none else b.held.get j := by
  unfold release
  split
  · exact get_held_letGo b k j
  · next hnone =>
    by_cases hjk : j = k
    · rw [if_pos hjk, hjk, hnone]
    · rw [if_neg hjk]

/-- A stroke of one key does not touch the hold of another. -/
theorem get_held_strokeChar_of_ne {c : Char} (h : b.keymap.key? c.toLower ≠ some k)
    (stroke : Stroke) (now : Nat) :
    (b.strokeChar c stroke now).keyboard.held.get k = b.held.get k := by
  unfold strokeChar
  cases hj : b.keymap.key? c.toLower with
  | none => rfl
  | some j =>
    have hkj : k ≠ j := by
      rintro rfl
      exact h hj
    cases stroke with
    | release => exact (get_held_release b j k).trans (if_neg hkj)
    | press => exact (get_held_strike b j k now).trans (if_neg hkj)
    | again => exact (get_held_strike b j k now).trans (if_neg hkj)

/-- An event that is no stroke of a key leaves its hold alone. -/
theorem get_held_receive_of_not_strokes (h : ∀ stroke, ¬ event.Strokes b.keymap k stroke)
    (now : Nat) : (b.receive event now).keyboard.held.get k = b.held.get k := by
  unfold receive
  split
  · next c modifiers stroke =>
    split
    · rfl
    · next hquit =>
      apply get_held_strokeChar_of_ne
      intro hkey
      exact h stroke (.char hquit hkey)
  · rfl
  · rfl
  · rfl

end Receive

section Call

variable {b : Keyboard} {c : Call} {k : Key}

/-- A strike begins a hold. -/
theorem get_held_call_of_strikes (h : c.Strikes b.keymap k) :
    (b.call c).1.held.get k = some ⟨c.time + b.holdTime, b.nextGeneration⟩ := by
  have hbegins : ∀ now, (b.strike k now).keyboard.held.get k =
      some ⟨now + b.holdTime, b.nextGeneration⟩ := fun now =>
    (get_held_strike b k k now).trans (if_pos rfl)
  cases c with
  | expire now => exact absurd h not_false
  | receive event now =>
    show (b.receive event now).keyboard.held.get k = _
    rcases h with hpress | hagain
    · rw [receive_of_strokes hpress]
      exact hbegins now
    · rw [receive_of_strokes hagain]
      exact hbegins now

/-- A release that the terminal reports ends a hold. -/
theorem get_held_call_of_letsGo (h : c.LetsGo b.keymap k) : (b.call c).1.held.get k = none := by
  cases c with
  | expire now => exact absurd h not_false
  | receive event now =>
    show (b.receive event now).keyboard.held.get k = _
    rw [receive_of_strokes h, get_held_release, if_pos rfl]

/-- Other events leave the hold alone. -/
theorem get_held_call_receive {event : HostEvent} {now : Nat}
    (hstrike : ¬ (Call.receive event now).Strikes b.keymap k)
    (hletGo : ¬ (Call.receive event now).LetsGo b.keymap k) :
    (b.call (.receive event now)).1.held.get k = b.held.get k := by
  apply get_held_receive_of_not_strokes
  intro stroke hstroke
  cases stroke with
  | press => exact hstrike (.inl hstroke)
  | again => exact hstrike (.inr hstroke)
  | release => exact hletGo hstroke

theorem isOver_iff (b : Keyboard) (now : Nat) (k : Key) :
    b.isOver now k = true ↔ ∃ hold, b.held.get k = some hold ∧ hold.deadline ≤ now := by
  unfold isOver
  cases b.held.get k with
  | none => simp
  | some hold => simp

theorem get_held_expire (b : Keyboard) (now : Nat) (k : Key) :
    (b.expire now).1.held.get k = if b.isOver now k then none else b.held.get k :=
  Bank.get_ofFn _ k

/-- Expiring leaves exactly the holds that are not over. -/
theorem get_held_expire_eq_some_iff (b : Keyboard) (now : Nat) (k : Key) (hold : Hold) :
    (b.expire now).1.held.get k = some hold ↔ b.held.get k = some hold ∧ now < hold.deadline := by
  rw [get_held_expire]
  by_cases hover : b.isOver now k = true
  · obtain ⟨other, hk, hle⟩ := (isOver_iff b now k).mp hover
    rw [if_pos hover, hk]
    constructor
    · intro h
      cases h
    · rintro ⟨h, hlt⟩
      obtain rfl := Option.some.inj h
      omega
  · rw [if_neg hover]
    rw [isOver_iff] at hover
    constructor
    · intro hk
      refine ⟨hk, Nat.lt_of_not_le fun hle => ?_⟩
      exact hover ⟨hold, hk, hle⟩
    · exact And.left

end Call

/-- A keymap and a hold time are for good. -/
theorem Change.settings_eq {b after : Keyboard} {e : Option KeyEvent} (h : Change b after e) :
    after.keymap = b.keymap ∧ after.holdTime = b.holdTime := by
  cases h with
  | _ => exact ⟨rfl, rfl⟩

theorem settings_call (b : Keyboard) (c : Call) :
    (b.call c).1.keymap = b.keymap ∧ (b.call c).1.holdTime = b.holdTime := by
  cases c with
  | expire now => simp [call, expire]
  | receive event now => exact (change_receive b event now).settings_eq

theorem settings_callAll (b : Keyboard) (calls : List Call) :
    (b.callAll calls).1.keymap = b.keymap ∧ (b.callAll calls).1.holdTime = b.holdTime := by
  induction calls generalizing b with
  | nil => exact ⟨rfl, rfl⟩
  | cons c rest ih =>
    obtain ⟨hkeymap, htime⟩ := settings_call b c
    obtain ⟨hkeymap', htime'⟩ := ih (b.call c).1
    exact ⟨hkeymap'.trans hkeymap, htime'.trans htime⟩

/-! ## Holds and their history -/

section History

variable (keymap : Keymap) (holdTime : Nat)

theorem get_held_ofKeymap (k : Key) : (ofKeymap keymap holdTime).held.get k = none :=
  Bank.get_replicate none k

/-- What the latest call did to a keyboard with its history. -/
theorem callAll_snoc (b : Keyboard) (calls : List Call) (c : Call) :
    (b.callAll (calls ++ [c])).1 = ((b.callAll calls).1.call c).1 := by
  rw [callAll_append]
  rfl

/-- **Whatever is held was struck**, and its deadline is a hold time after its latest strike. -/
theorem struckSince_of_held {calls : List Call} {k : Key} {hold : Hold}
    (h : ((ofKeymap keymap holdTime).callAll calls).1.held.get k = some hold) :
    ∃ t, StruckSince keymap calls k t ∧ hold.deadline = t + holdTime := by
  induction calls using List.reverseRecOn generalizing hold with
  | nil =>
    rw [callAll, get_held_ofKeymap] at h
    cases h
  | append_singleton calls c ih =>
    obtain ⟨hkeymap, htime⟩ := settings_callAll (ofKeymap keymap holdTime) calls
    rw [callAll_snoc] at h
    simp only [struckSince_snoc_iff]
    by_cases hstrike : c.Strikes keymap k
    · rw [get_held_call_of_strikes (hkeymap ▸ hstrike), htime] at h
      obtain rfl := Option.some.inj h
      exact ⟨c.time, .inl ⟨hstrike, rfl⟩, rfl⟩
    · by_cases hletGo : c.LetsGo keymap k
      · rw [get_held_call_of_letsGo (hkeymap ▸ hletGo)] at h
        cases h
      · -- The hold is an old one, whatever the call was.
        have hold' : ((ofKeymap keymap holdTime).callAll calls).1.held.get k = some hold := by
          cases c with
          | expire now => exact ((get_held_expire_eq_some_iff _ now k hold).mp h).1
          | receive event now =>
            rwa [get_held_call_receive (hkeymap ▸ hstrike) (hkeymap ▸ hletGo)] at h
        obtain ⟨t, ht, hdeadline⟩ := ih hold'
        exact ⟨t, .inr ⟨ht, hstrike, hletGo⟩, hdeadline⟩

/-- **Whatever was struck is held**, as long as no call came a hold time after its latest strike. -/
theorem held_of_struckSince {calls : List Call} {k : Key} {t : Nat}
    (h : StruckSince keymap calls k t) (hrecent : ∀ c ∈ calls, c.time < t + holdTime) :
    ∃ hold, ((ofKeymap keymap holdTime).callAll calls).1.held.get k = some hold ∧
      hold.deadline = t + holdTime := by
  induction calls using List.reverseRecOn with
  | nil => exact absurd h (not_struckSince_nil keymap k t)
  | append_singleton calls c ih =>
    obtain ⟨hkeymap, htime⟩ := settings_callAll (ofKeymap keymap holdTime) calls
    obtain ⟨hearlier, hlast⟩ := List.forall_mem_append.mp hrecent
    rw [callAll_snoc]
    rw [struckSince_snoc_iff] at h
    rcases h with ⟨hstrike, rfl⟩ | ⟨h, hstrike, hletGo⟩
    · rw [get_held_call_of_strikes (hkeymap ▸ hstrike), htime]
      exact ⟨_, rfl, rfl⟩
    · obtain ⟨hold, hk, hdeadline⟩ := ih h hearlier
      refine ⟨hold, ?_, hdeadline⟩
      cases c with
      | expire now =>
        have hnow : now < t + holdTime := hlast (.expire now) (List.mem_singleton_self _)
        exact (get_held_expire_eq_some_iff _ now k hold).mpr ⟨hk, hdeadline ▸ hnow⟩
      | receive event now =>
        rw [get_held_call_receive (hkeymap ▸ hstrike) (hkeymap ▸ hletGo)]
        exact hk

end History

/-! ## Deadlines -/

theorem mem_deadlines_iff (b : Keyboard) (d : Nat) :
    (d ∈ b.held.toList.filterMap fun h => h.map Hold.deadline) ↔
      ∃ k hold, b.held.get k = some hold ∧ hold.deadline = d := by
  rw [List.mem_filterMap]
  constructor
  · rintro ⟨h, hmem, hd⟩
    obtain ⟨hold, rfl, rfl⟩ := Option.map_eq_some_iff.mp hd
    obtain ⟨i, hi, hget⟩ := List.mem_iff_getElem.mp hmem
    rw [Bank.length_toList] at hi
    have hk := Bank.getElem?_toList b.held ⟨i, hi⟩
    rw [List.getElem?_eq_getElem (by simpa using hi), hget] at hk
    exact ⟨⟨i, hi⟩, hold, (Option.some.inj hk).symm, rfl⟩
  · rintro ⟨k, hold, hk, rfl⟩
    refine ⟨some hold, List.mem_of_getElem? (i := k.val) ?_, rfl⟩
    rw [Bank.getElem?_toList, hk]

theorem deadline?_eq_none_iff (b : Keyboard) :
    b.deadline? = none ↔ ∀ k, b.held.get k = none := by
  rw [deadline?, List.min?_eq_none_iff, List.eq_nil_iff_forall_not_mem]
  simp only [mem_deadlines_iff]
  constructor
  · intro h k
    cases hk : b.held.get k with
    | none => rfl
    | some hold => exact absurd ⟨k, hold, hk, rfl⟩ (h hold.deadline)
  · rintro h d ⟨k, hold, hk, -⟩
    rw [h k] at hk
    cases hk

theorem deadline?_eq_some_iff (b : Keyboard) (d : Nat) :
    b.deadline? = some d ↔
      (∃ k hold, b.held.get k = some hold ∧ hold.deadline = d) ∧
        ∀ k hold, b.held.get k = some hold → d ≤ hold.deadline := by
  rw [deadline?, List.min?_eq_some_iff, mem_deadlines_iff]
  refine and_congr_right fun _ => ?_
  simp only [mem_deadlines_iff]
  constructor
  · intro h k hold hk
    exact h _ ⟨k, hold, hk, rfl⟩
  · rintro h _ ⟨k, hold, hk, rfl⟩
    exact h k hold hk

/-! ## The releases of an expiry -/

/-- A key is held. -/
def Holds (b : Keyboard) (k : Key) : Prop :=
  ∃ hold, b.held.get k = some hold

/-- An event is the release that ends the hold of a key. -/
def EndedBy (b : Keyboard) (k : Key) (e : KeyEvent) : Prop :=
  ∃ hold, b.held.get k = some hold ∧ e = .up (Key.code k) hold.generation

/-- Among some keys, those whose hold is over go up, in their order and each in the generation of
its hold. -/
theorem forall₂_ending? (b : Keyboard) (now : Nat) (ks : List Key) :
    List.Forall₂ b.EndedBy (ks.filter (b.isOver now)) (ks.filterMap (b.ending? now)) := by
  induction ks with
  | nil => exact .nil
  | cons k ks ih =>
    by_cases hover : b.isOver now k = true
    · obtain ⟨hold, hk, hle⟩ := (isOver_iff b now k).mp hover
      have hends : b.ending? now k = some (.up (Key.code k) hold.generation) := by
        rw [ending?, hk]
        exact if_pos hle
      rw [List.filter_cons_of_pos hover, List.filterMap_cons_some hends]
      exact .cons ⟨hold, hk, rfl⟩ ih
    · rw [List.filter_cons_of_neg hover,
        List.filterMap_cons_none (ending?_eq_none (eq_false_of_ne_true hover))]
      exact ih

/-! ## Holds end in time -/

/-- What a keyboard, `before`, comes to when it is asked to expire, by the calls that were made on
it. -/
structure Timely (keymap : Keymap) (holdTime : Nat) (calls : List Call) (before : Keyboard)
    (now : Nat) : Prop where
  /-- Those keys are held whose latest stroke was a strike, less than the hold time ago. -/
  holds_iff : ∀ k, (before.expire now).1.Holds k ↔
    ∃ t, StruckSince keymap calls k t ∧ now < t + holdTime
  deadline_eq_none_iff : (before.expire now).1.deadline? = none ↔
    ∀ k, ¬ (before.expire now).1.Holds k
  /-- The deadline is the earliest time at which a held key was held for the hold time. -/
  deadline_eq_some_iff : ∀ d, (before.expire now).1.deadline? = some d ↔
    (∃ k t, (before.expire now).1.Holds k ∧ StruckSince keymap calls k t ∧ t + holdTime = d) ∧
      ∀ k t, (before.expire now).1.Holds k → StruckSince keymap calls k t → d ≤ t + holdTime
  lt_deadline : ∀ d, (before.expire now).1.deadline? = some d → now < d
  /-- One release is sent for each key that was held and whose time is over, in ascending order, and
  nothing else. -/
  releases : ∃ ks : List Key, ks.Pairwise (· < ·) ∧
    (∀ k, k ∈ ks ↔ before.Holds k ∧ ∃ t, StruckSince keymap calls k t ∧ t + holdTime ≤ now) ∧
    List.Forall₂ before.EndedBy ks (before.expire now).2
  /-- If no more strokes come in, all keys are let go at the last deadline or later. -/
  quiet : ∀ later, (∀ k t, (before.expire now).1.Holds k → StruckSince keymap calls k t →
      t + holdTime ≤ later) →
    (∀ k, ¬ ((before.expire now).1.expire later).1.Holds k) ∧
      ((before.expire now).1.expire later).1.deadline? = none

theorem deadline?_eq_none_iff_holds (b : Keyboard) : b.deadline? = none ↔ ∀ k, ¬ b.Holds k := by
  rw [deadline?_eq_none_iff]
  simp only [Holds, Option.eq_none_iff_forall_ne_some, not_exists, ne_eq]

section Expire

variable {keymap : Keymap} {holdTime : Nat} {calls : List Call} {k : Key}

/-- The deadline of a hold is known from the latest strike. -/
theorem deadline_eq {hold : Hold} {t : Nat} (ht : StruckSince keymap calls k t)
    (h : ((ofKeymap keymap holdTime).callAll calls).1.held.get k = some hold) :
    hold.deadline = t + holdTime := by
  obtain ⟨t', ht', hdeadline⟩ := struckSince_of_held keymap holdTime h
  rw [hdeadline, ht.unique ht']

/-- What is still held after an expiry is not due. -/
theorem struckSince_of_held_expire {now : Nat} {hold : Hold}
    (h : (((ofKeymap keymap holdTime).callAll calls).1.expire now).1.held.get k = some hold) :
    ∃ t, StruckSince keymap calls k t ∧ hold.deadline = t + holdTime ∧ now < t + holdTime := by
  obtain ⟨hk, hlt⟩ := (get_held_expire_eq_some_iff _ now k hold).mp h
  obtain ⟨t, ht, hdeadline⟩ := struckSince_of_held keymap holdTime hk
  exact ⟨t, ht, hdeadline, hdeadline ▸ hlt⟩

end Expire

/-- **Holds end in time**, for every keymap and hold time and after any calls, as long as none of
them was of a later time. -/
theorem timely_ofKeymap (keymap : Keymap) (holdTime : Nat) (calls : List Call) (now : Nat)
    (hpast : ∀ c ∈ calls, c.time ≤ now) :
    Timely keymap holdTime calls ((ofKeymap keymap holdTime).callAll calls).1 now where
  holds_iff k := by
    constructor
    · rintro ⟨hold, hk⟩
      obtain ⟨t, ht, -, hlt⟩ := struckSince_of_held_expire hk
      exact ⟨t, ht, hlt⟩
    · rintro ⟨t, ht, hlt⟩
      -- What still runs now was running at every earlier call.
      have hrecent : ∀ c ∈ calls, c.time < t + holdTime := fun c hc =>
        Nat.lt_of_le_of_lt (hpast c hc) hlt
      obtain ⟨hold, hk, hdeadline⟩ := held_of_struckSince keymap holdTime ht hrecent
      exact ⟨hold, (get_held_expire_eq_some_iff _ now k hold).mpr ⟨hk, hdeadline ▸ hlt⟩⟩
  deadline_eq_none_iff := deadline?_eq_none_iff_holds _
  deadline_eq_some_iff d := by
    rw [deadline?_eq_some_iff]
    constructor
    · rintro ⟨⟨k, hold, hk, rfl⟩, hleast⟩
      obtain ⟨t, ht, hdeadline, -⟩ := struckSince_of_held_expire hk
      refine ⟨⟨k, t, ⟨hold, hk⟩, ht, hdeadline.symm⟩, ?_⟩
      rintro j u ⟨other, hj⟩ hu
      obtain ⟨u', hu', hother, -⟩ := struckSince_of_held_expire hj
      rw [hu.unique hu', ← hother]
      exact hleast j other hj
    · rintro ⟨⟨k, t, ⟨hold, hk⟩, ht, rfl⟩, hleast⟩
      obtain ⟨t', ht', hdeadline, -⟩ := struckSince_of_held_expire hk
      refine ⟨⟨k, hold, hk, by rw [hdeadline, ht.unique ht']⟩, ?_⟩
      intro j other hj
      obtain ⟨u, hu, hother, -⟩ := struckSince_of_held_expire hj
      rw [hother]
      exact hleast j u ⟨other, hj⟩ hu
  lt_deadline d h := by
    obtain ⟨⟨k, hold, hk, rfl⟩, -⟩ := (deadline?_eq_some_iff _ d).mp h
    exact ((get_held_expire_eq_some_iff _ now k hold).mp hk).2
  releases := by
    refine ⟨_, (List.pairwise_lt_finRange 16).filter _, ?_, forall₂_ending? _ now _⟩
    intro k
    rw [List.mem_filter, isOver_iff]
    constructor
    · rintro ⟨-, hold, hk, hle⟩
      obtain ⟨t, ht, hdeadline⟩ := struckSince_of_held keymap holdTime hk
      exact ⟨⟨hold, hk⟩, t, ht, hdeadline ▸ hle⟩
    · rintro ⟨⟨hold, hk⟩, t, ht, hle⟩
      exact ⟨List.mem_finRange k, hold, hk, deadline_eq ht hk ▸ hle⟩
  quiet later hlast := by
    have hnone : ∀ k, ¬ ((((ofKeymap keymap holdTime).callAll calls).1.expire now).1.expire
        later).1.Holds k := by
      rintro k ⟨hold, hk⟩
      obtain ⟨hk, hlt⟩ := (get_held_expire_eq_some_iff _ later k hold).mp hk
      obtain ⟨t, ht, hdeadline, -⟩ := struckSince_of_held_expire hk
      have hle := hlast k t ⟨hold, hk⟩ ht
      omega
    exact ⟨hnone, (deadline?_eq_none_iff_holds _).mpr hnone⟩

/-- Three characters stand for one key, which is struck as one of them, let go as another and struck
again as both; the third only asks to quit.  The hold of another key is just over at 120. -/
def steadyCalls : List Call :=
  [.receive (.key (.char 'Y') {} .press) 10, .receive (.key (.char 'a') {} .press) 20,
    .receive (.key (.char 'x') {} .release) 30, .expire 40,
    .receive (.key (.char 'X') {} .press) 60, .receive (.key (.char 'y') {} .again) 80,
    .receive (.key (.char 'c') { control := true } .release) 90]

theorem timely_steadyCalls :
    (∀ c ∈ steadyCalls, c.time ≤ 120) ∧
      Timely [('x', 0xC), ('c', 0xC), ('y', 0xC), ('a', 0x3)] 100 steadyCalls
        ((ofKeymap [('x', 0xC), ('c', 0xC), ('y', 0xC), ('a', 0x3)] 100).callAll steadyCalls).1
        120 := by
  have hpast : ∀ c ∈ steadyCalls, c.time ≤ 120 := by decide
  exact ⟨hpast, timely_ofKeymap _ 100 steadyCalls 120 hpast⟩

end Keyboard

end Chip8
