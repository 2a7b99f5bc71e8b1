import Chip8.Proofs.Calls
import Chip8.Proofs.Delivery

/-!
# Keyboard and keypad stay together

The keyboard keeps which keys are held and under which generation; the keypad,
which is told by events only, keeps which keys are down and the generation of
the latest press.  The two never drift apart.  What ties them together is the
stream of events: a key that is held was last pressed under the generation of
its hold, no release of which has been sent; so the release that ends the hold,
whenever it is sent, is one that counts.

A keypad that lags behind, having taken in only a first part of the stream,
agrees with the keyboard as it was when that part had been sent.

All this holds as long as generations do not wrap around.

## Main definitions

* `pressGenerations`, `releaseGenerations`, `latestPress?`: what a stream tells
* `Keyboard.Agrees`: keyboard and keypad have the same keys down
* `Keyboard.Coupled`: the invariant that ties both to the stream
* `Keyboard.Tracked`: what calls and their events come to

## Main results

* `Keyboard.Coupled.change`: every act keeps the invariant
* `Keyboard.coupled_actAll`, `Keyboard.agrees_whenSent`: so do all acts, and
  whoever lags behind agrees with an earlier keyboard
* `Keyboard.tracked_ofKeymap`: calls on a keyboard, and whoever is told of them
-/

namespace Chip8

/-! ## What a stream tells -/

/-- The generations of the presses in a stream. -/
def pressGenerations (events : List KeyEvent) : List UInt64 :=
  events.filterMap fun
    | .down _ generation => some generation
    | _ => none

/-- The generations of the releases in a stream. -/
def releaseGenerations (events : List KeyEvent) : List UInt64 :=
  events.filterMap fun
    | .up _ generation => some generation
    | _ => none

/-- The generation of a press, if it is one of a key. -/
def pressOf? (code : UInt8) : KeyEvent → Option UInt64
  | .down c generation => if c = code then some generation else none
  | _ => none

/-- The generation of the latest press of a key in a stream. -/
def latestPress? (code : UInt8) (events : List KeyEvent) : Option UInt64 :=
  events.reverse.findSome? (pressOf? code)

theorem pressGenerations_append (first rest : List KeyEvent) :
    pressGenerations (first ++ rest) = pressGenerations first ++ pressGenerations rest :=
  List.filterMap_append

theorem releaseGenerations_append (first rest : List KeyEvent) :
    releaseGenerations (first ++ rest) = releaseGenerations first ++ releaseGenerations rest :=
  List.filterMap_append

/-! What one event more adds to a stream. -/

section Snoc

variable (events : List KeyEvent) (code : UInt8) (g : UInt64)

@[simp] theorem pressGenerations_down :
    pressGenerations (events ++ [.down code g]) = pressGenerations events ++ [g] :=
  pressGenerations_append ..

@[simp] theorem pressGenerations_up :
    pressGenerations (events ++ [.up code g]) = pressGenerations events :=
  (pressGenerations_append ..).trans (List.append_nil _)

@[simp] theorem pressGenerations_quit :
    pressGenerations (events ++ [.quit]) = pressGenerations events :=
  (pressGenerations_append ..).trans (List.append_nil _)

@[simp] theorem releaseGenerations_down :
    releaseGenerations (events ++ [.down code g]) = releaseGenerations events :=
  (releaseGenerations_append ..).trans (List.append_nil _)

@[simp] theorem releaseGenerations_up :
    releaseGenerations (events ++ [.up code g]) = releaseGenerations events ++ [g] :=
  releaseGenerations_append ..

@[simp] theorem releaseGenerations_quit :
    releaseGenerations (events ++ [.quit]) = releaseGenerations events :=
  (releaseGenerations_append ..).trans (List.append_nil _)

theorem latestPress?_snoc (e : KeyEvent) :
    latestPress? code (events ++ [e]) = (pressOf? code e).or (latestPress? code events) := by
  rw [latestPress?, List.reverse_append, List.reverse_singleton, List.singleton_append,
    List.findSome?_cons]
  cases pressOf? code e with
  | none => rfl
  | some generation => rfl

end Snoc

/-- A part of a stream has no more presses than the whole. -/
theorem length_pressGenerations_le {first events : List KeyEvent} (h : first <+: events) :
    (pressGenerations first).length ≤ (pressGenerations events).length :=
  (h.filterMap _).length_le

theorem code_inj {k j : Key} : k.code = j.code ↔ k = j :=
  ⟨fun h => by rw [← Key.ofCode_code k, h, Key.ofCode_code], congrArg Key.code⟩

namespace Keyboard

/-! ## Agreement -/

/-- Keyboard and keypad have the same keys down, in the same generations. -/
structure Agrees (b : Keyboard) (p : Keypad) : Prop where
  /-- The bit of a key is set in the mask exactly if the key is held. -/
  bit_eq : ∀ k : Key, p.mask.toNat.testBit k.val = (b.held.get k).isSome
  /-- A key that is held is down in the generation of its hold. -/
  generation_eq : ∀ k hold, b.held.get k = some hold → (p.keys.get k).generation = hold.generation

theorem Agrees.isDown_eq {b : Keyboard} {p : Keypad} (h : b.Agrees p) (k : Key) :
    p.isDown k = (b.held.get k).isSome := by
  rw [← Keypad.testBit_mask]
  exact h.bit_eq k

/-- Agreement key by key. -/
theorem Agrees.of_keys {b : Keyboard} {p : Keypad}
    (hdown : ∀ k, p.isDown k = (b.held.get k).isSome)
    (hgen : ∀ k hold, b.held.get k = some hold → (p.keys.get k).generation = hold.generation) :
    b.Agrees p where
  bit_eq k := by
    rw [Keypad.testBit_mask]
    exact hdown k
  generation_eq := hgen

theorem agrees_ofKeymap (keymap : Keymap) (holdTime : Nat) :
    (ofKeymap keymap holdTime).Agrees Keypad.fresh := by
  refine .of_keys (fun k => ?_) (fun k hold hk => ?_)
  · rw [Keypad.isDown_fresh, ofKeymap, Bank.get_replicate]
    rfl
  · rw [ofKeymap, Bank.get_replicate] at hk
    cases hk

/-- The release that ends a hold counts. -/
theorem Agrees.accepts {b : Keyboard} {p : Keypad} (h : b.Agrees p) {k : Key} {hold : Hold}
    (hk : b.held.get k = some hold) : p.accepts k.code hold.generation = true := by
  rw [Keypad.accepts, Key.ofCode_code, h.isDown_eq, hk, h.generation_eq k hold hk]
  simp

/-- After a strike, a hold is the new one or one of another key. -/
theorem held_of_strike {b : Keyboard} {k j : Key} {now : Nat} {hold : Hold}
    (h : (b.strike k now).keyboard.held.get j = some hold) :
    j = k ∧ hold.generation = b.nextGeneration ∨ j ≠ k ∧ b.held.get j = some hold := by
  rw [get_held_strike] at h
  by_cases hjk : j = k
  · rw [if_pos hjk] at h
    exact .inl ⟨hjk, by rw [← Option.some.inj h]⟩
  · rw [if_neg hjk] at h
    exact .inr ⟨hjk, h⟩

theorem held_of_letGo {b : Keyboard} {k j : Key} {hold : Hold}
    (h : (b.letGo k).held.get j = some hold) : j ≠ k ∧ b.held.get j = some hold := by
  rw [get_held_letGo] at h
  by_cases hjk : j = k
  · rw [if_pos hjk] at h
    cases h
  · rw [if_neg hjk] at h
    exact ⟨hjk, h⟩

theorem Agrees.strike {b : Keyboard} {p : Keypad} (h : b.Agrees p) (k : Key) (now : Nat) :
    (b.strike k now).keyboard.Agrees (p.take (.down k.code b.nextGeneration)) := by
  refine .of_keys (fun j => ?_) (fun j hold hj => ?_)
  · rw [Keypad.take, Keypad.isDown_press, Key.ofCode_code, get_held_strike, h.isDown_eq]
    by_cases hjk : j = k
    · simp [hjk]
    · simp [hjk]
  · rw [get_held_strike] at hj
    rw [Keypad.take, Keypad.press, Key.ofCode_code, Bank.get_set]
    by_cases hjk : j = k
    · rw [if_pos hjk] at hj ⊢
      rw [← Option.some.inj hj]
    · rw [if_neg hjk] at hj ⊢
      exact h.generation_eq j hold hj

theorem Agrees.letGo {b : Keyboard} {p : Keypad} (h : b.Agrees p) {k : Key} {hold : Hold}
    (hk : b.held.get k = some hold) :
    (b.letGo k).Agrees (p.take (.up k.code hold.generation)) := by
  -- The keypad knows the hold by its generation, so the release is not lost on it.
  have hcounts := h.accepts hk
  refine .of_keys (fun j => ?_) (fun j other hj => ?_)
  · rw [Keypad.take, Keypad.isDown_release, hcounts, Key.ofCode_code, get_held_letGo, h.isDown_eq]
    by_cases hjk : j = k
    · simp [hjk]
    · simp [hjk]
  · rw [get_held_letGo] at hj
    rw [Keypad.take, Keypad.release, if_pos hcounts, Key.ofCode_code, Bank.get_set]
    by_cases hjk : j = k
    · rw [if_pos hjk] at hj
      cases hj
    · rw [if_neg hjk] at hj ⊢
      exact h.generation_eq j other hj

/-! ## The invariant -/

/-- A generation whose press is the latest of its key, and whose release was not sent yet. -/
structure Outstanding (b : Keyboard) (sent : List KeyEvent) (k : Key) (g : UInt64) : Prop where
  lt_next : g.toNat < b.nextGeneration.toNat
  not_released : g ∉ releaseGenerations sent
  latest : latestPress? k.code sent = some g

/-- **The invariant** that ties a keyboard to the events it sent and to a keypad that took them
in. -/
structure Coupled (b : Keyboard) (sent : List KeyEvent) : Prop where
  agrees : b.Agrees (Keypad.fresh.takeAll sent)
  next_eq : b.nextGeneration.toNat = (pressGenerations sent).length + 1
  presses_eq : (pressGenerations sent).map UInt64.toNat =
    List.range' 1 (pressGenerations sent).length
  released_lt : ∀ g ∈ releaseGenerations sent, g.toNat < b.nextGeneration.toNat
  released_nodup : (releaseGenerations sent).Nodup
  outstanding : ∀ k hold, b.held.get k = some hold → b.Outstanding sent k hold.generation
  held_inj : ∀ k j hold other, b.held.get k = some hold → b.held.get j = some other →
    hold.generation = other.generation → k = j
  releases : EachRelease (fun before code g =>
    ((Keypad.fresh.takeAll before).release code g).1 = true ∧
      latestPress? code before = some g) sent

theorem coupled_ofKeymap (keymap : Keymap) (holdTime : Nat) :
    (ofKeymap keymap holdTime).Coupled [] := by
  have hnone : ∀ k, (ofKeymap keymap holdTime).held.get k = none := fun k =>
    Bank.get_replicate none k
  refine
    { agrees := agrees_ofKeymap keymap holdTime
      next_eq := rfl
      presses_eq := rfl
      released_lt := fun g hg => absurd hg List.not_mem_nil
      released_nodup := List.nodup_nil
      outstanding := fun k hold hk => ?_
      held_inj := fun k j hold other hk _ _ => ?_
      releases := eachRelease_nil _ }
  · rw [hnone] at hk
    cases hk
  · rw [hnone] at hk
    cases hk

theorem Coupled.quit {b : Keyboard} {sent : List KeyEvent} (h : b.Coupled sent) :
    b.Coupled (sent ++ [.quit]) := by
  have hlatest : ∀ code, latestPress? code (sent ++ [.quit]) = latestPress? code sent :=
    fun code => latestPress?_snoc sent code .quit
  refine
    { agrees := ?_
      next_eq := ?_
      presses_eq := ?_
      released_lt := ?_
      released_nodup := ?_
      outstanding := fun k hold hk => ?_
      held_inj := h.held_inj
      releases := h.releases.snoc fun code g he => nomatch he }
  · rw [Keypad.takeAll_append]
    exact h.agrees
  · rw [pressGenerations_quit]
    exact h.next_eq
  · rw [pressGenerations_quit]
    exact h.presses_eq
  · rw [releaseGenerations_quit]
    exact h.released_lt
  · rw [releaseGenerations_quit]
    exact h.released_nodup
  · obtain ⟨hlt, hnot, hpress⟩ := h.outstanding k hold hk
    refine ⟨hlt, ?_, ?_⟩
    · rw [releaseGenerations_quit]
      exact hnot
    · rw [hlatest]
      exact hpress

/-- Generations do not wrap around as long as presses are few. -/
theorem Coupled.next_succ {b : Keyboard} {sent : List KeyEvent} (h : b.Coupled sent)
    (hfew : (pressGenerations sent).length + 1 < UInt64.size - 1) :
    (b.nextGeneration + 1).toNat = b.nextGeneration.toNat + 1 := by
  have hlt : b.nextGeneration.toNat + 1 < UInt64.size := by
    rw [h.next_eq]
    omega
  rw [UInt64.toNat_add]
  exact Nat.mod_eq_of_lt hlt

/-- The generation of a new hold is outstanding, since it was never used. -/
theorem Coupled.outstanding_next {b : Keyboard} {sent : List KeyEvent} (h : b.Coupled sent)
    (k : Key) (now : Nat)
    (hnext : (b.nextGeneration + 1).toNat = b.nextGeneration.toNat + 1) :
    (b.strike k now).keyboard.Outstanding (sent ++ [.down k.code b.nextGeneration]) k
      b.nextGeneration := by
  refine ⟨?_, fun hg => ?_, ?_⟩
  · show b.nextGeneration.toNat < (b.nextGeneration + 1).toNat
    rw [hnext]
    exact Nat.lt_succ_self _
  · rw [releaseGenerations_down] at hg
    exact Nat.lt_irrefl _ (h.released_lt _ hg)
  · rw [latestPress?_snoc, pressOf?, if_pos rfl]
    rfl

/-- What is outstanding of another key stays so when a key is struck. -/
theorem Outstanding.strike {b : Keyboard} {sent : List KeyEvent} {j : Key} {g : UInt64}
    (h : b.Outstanding sent j g) {k : Key} (hjk : j ≠ k) (now : Nat)
    (hnext : (b.nextGeneration + 1).toNat = b.nextGeneration.toNat + 1) :
    (b.strike k now).keyboard.Outstanding (sent ++ [.down k.code b.nextGeneration]) j g := by
  refine ⟨?_, ?_, ?_⟩
  · show g.toNat < (b.nextGeneration + 1).toNat
    rw [hnext]
    exact Nat.lt_succ_of_lt h.lt_next
  · rw [releaseGenerations_down]
    exact h.not_released
  · rw [latestPress?_snoc, pressOf?, if_neg fun he => hjk (code_inj.mp he).symm]
    exact h.latest

/-- The generation of a new hold is not that of another. -/
theorem Coupled.generation_ne {b : Keyboard} {sent : List KeyEvent} (h : b.Coupled sent) {j : Key}
    {hold : Hold} (hj : b.held.get j = some hold) : hold.generation ≠ b.nextGeneration := by
  intro he
  have hlt := (h.outstanding j hold hj).lt_next
  rw [he] at hlt
  exact Nat.lt_irrefl _ hlt

theorem Coupled.strike {b : Keyboard} {sent : List KeyEvent} (h : b.Coupled sent) (k : Key)
    (now : Nat) (hfew : (pressGenerations sent).length + 1 < UInt64.size - 1) :
    (b.strike k now).keyboard.Coupled (sent ++ [.down k.code b.nextGeneration]) := by
  have hnext := h.next_succ hfew
  have hnext' : (b.strike k now).keyboard.nextGeneration.toNat = b.nextGeneration.toNat + 1 := hnext
  refine
    { agrees := ?_
      next_eq := ?_
      presses_eq := ?_
      released_lt := fun g hg => ?_
      released_nodup := ?_
      outstanding := fun j hold hj => ?_
      held_inj := fun i j hold other hi hj hsame => ?_
      releases := h.releases.snoc fun code g he => nomatch he }
  · rw [Keypad.takeAll_append]
    exact h.agrees.strike k now
  · rw [pressGenerations_down, hnext', h.next_eq, List.length_append]
    rfl
  · -- The press is the next in number, and `nextGeneration` is just that.
    rw [pressGenerations_down, List.map_append, h.presses_eq, List.length_append,
      List.length_singleton, List.range'_1_concat, List.map_singleton, h.next_eq, Nat.add_comm]
  · rw [releaseGenerations_down] at hg
    rw [hnext']
    exact Nat.lt_succ_of_lt (h.released_lt g hg)
  · rw [releaseGenerations_down]
    exact h.released_nodup
  · rcases held_of_strike hj with ⟨rfl, hgen⟩ | ⟨hjk, hj'⟩
    · rw [hgen]
      exact h.outstanding_next j now hnext
    · exact (h.outstanding j hold hj').strike hjk now hnext
  · rcases held_of_strike hi with ⟨hik, hgen⟩ | ⟨-, hi'⟩
    · rcases held_of_strike hj with ⟨hjk, -⟩ | ⟨-, hj'⟩
      · rw [hik, hjk]
      · exact absurd (hsame.symm.trans hgen) (h.generation_ne hj')
    · rcases held_of_strike hj with ⟨-, hgen⟩ | ⟨-, hj'⟩
      · exact absurd (hsame.trans hgen) (h.generation_ne hi')
      · exact h.held_inj i j hold other hi' hj' hsame

theorem Coupled.letGo {b : Keyboard} {sent : List KeyEvent} (h : b.Coupled sent) {k : Key}
    {hold : Hold} (hk : b.held.get k = some hold) :
    (b.letGo k).Coupled (sent ++ [.up k.code hold.generation]) := by
  obtain ⟨hlt, hnot, hlatest⟩ := h.outstanding k hold hk
  refine
    { agrees := ?_
      next_eq := ?_
      presses_eq := ?_
      released_lt := fun g hg => ?_
      released_nodup := ?_
      outstanding := fun j other hj => ?_
      held_inj := fun i j one other hi hj hsame =>
        h.held_inj i j one other (held_of_letGo hi).2 (held_of_letGo hj).2 hsame
      releases := h.releases.snoc fun code g he => ?_ }
  · rw [Keypad.takeAll_append]
    exact h.agrees.letGo hk
  · rw [pressGenerations_up]
    exact h.next_eq
  · rw [pressGenerations_up]
    exact h.presses_eq
  · rw [releaseGenerations_up] at hg
    rcases List.mem_append.mp hg with hg | hg
    · exact h.released_lt g hg
    · rw [List.mem_singleton.mp hg]
      exact hlt
  · -- An outstanding generation was not released before.
    rw [releaseGenerations_up]
    refine List.nodup_append.mpr ⟨h.released_nodup, List.pairwise_singleton _ _, ?_⟩
    intro g hg g' hg' he
    rw [List.mem_singleton.mp hg'] at he
    exact hnot (he ▸ hg)
  · obtain ⟨hjk, hj'⟩ := held_of_letGo hj
    obtain ⟨hlt', hnot', hlatest'⟩ := h.outstanding j other hj'
    refine ⟨hlt', fun hg => ?_, ?_⟩
    · rw [releaseGenerations_up] at hg
      rcases List.mem_append.mp hg with hg | hg
      · exact hnot' hg
      · -- No other key was held in the generation that was just released.
        exact hjk (h.held_inj j k other hold hj' hk (List.mem_singleton.mp hg))
    · rw [latestPress?_snoc]
      exact hlatest'
  · obtain ⟨rfl, rfl⟩ := KeyEvent.up.inj he
    refine ⟨?_, hlatest⟩
    rw [Keypad.fst_release]
    exact h.agrees.accepts hk

/-- **Every act keeps the invariant**, whatever it sends. -/
theorem Coupled.change {b after : Keyboard} {e : Option KeyEvent} {sent : List KeyEvent}
    (h : b.Coupled sent) (hc : Change b after e)
    (hfew : (pressGenerations (sent ++ e.toList)).length < UInt64.size - 1) :
    after.Coupled (sent ++ e.toList) := by
  cases hc with
  | none =>
    rw [Option.toList_none, List.append_nil]
    exact h
  | quit => exact h.quit
  | strike k now =>
    refine h.strike k now ?_
    rw [Option.toList_some, pressGenerations_down, List.length_append] at hfew
    exact hfew
  | letGo k hold hk => exact h.letGo hk

/-- All acts keep the invariant. -/
theorem coupled_actAll {b : Keyboard} {sent : List KeyEvent} (h : b.Coupled sent) (acts : List Act)
    (hfew : (pressGenerations (sent ++ (b.actAll acts).2)).length < UInt64.size - 1) :
    (b.actAll acts).1.Coupled (sent ++ (b.actAll acts).2) := by
  induction acts generalizing b sent with
  | nil =>
    rw [show (b.actAll []).2 = [] from rfl, List.append_nil]
    exact h
  | cons a rest ih =>
    rw [actAll_cons, ← List.append_assoc] at hfew ⊢
    refine ih (h.change (change_act b a) ?_) hfew
    exact Nat.lt_of_le_of_lt (length_pressGenerations_le (List.prefix_append ..)) hfew

/-- The invariant held all along. -/
theorem coupled_earlier {b : Keyboard} (h : b.Coupled []) {done acts : List Act}
    (hdone : done <+: acts)
    (hfew : (pressGenerations (b.actAll acts).2).length < UInt64.size - 1) :
    (b.actAll done).1.Coupled (b.actAll done).2 := by
  obtain ⟨rest, rfl⟩ := hdone
  refine coupled_actAll h done (Nat.lt_of_le_of_lt (length_pressGenerations_le ?_) hfew)
  rw [actAll_append]
  exact List.prefix_append ..

/-- Who lags behind agrees with the keyboard at the moment the latest event was sent that was taken
in. -/
theorem agrees_whenSent {b : Keyboard} (h : b.Coupled []) (acts : List Act) (n : Nat)
    (hfew : (pressGenerations (b.actAll acts).2).length < UInt64.size - 1) :
    (b.whenSent acts n).Agrees (Keypad.fresh.takeAll ((b.actAll acts).2.take n)) := by
  -- That moment lies between two acts, and the invariant held there.
  obtain ⟨done, hdone, hb, hsent⟩ := whenSent_eq b acts n
  rw [hb, ← hsent]
  exact (coupled_earlier h hdone hfew).agrees

/-! ## Calls and their events -/

/-- Whoever takes in the events that calls on a keyboard send stays together with it. -/
structure Tracked (b : Keyboard) (calls : List Call) : Prop where
  /-- After each call, a keypad that took in what was sent agrees with the keyboard. -/
  agrees : ∀ done, done <+: calls →
    (b.callAll done).1.Agrees (Keypad.fresh.takeAll (b.callAll done).2)
  /-- A keypad that took in so many events agrees with the keyboard when it had sent them. -/
  agrees_whenSent : ∀ n, (b.whenSent (calls.flatMap Call.acts) n).Agrees
    (Keypad.fresh.takeAll ((b.callAll calls).2.take n))
  /-- So does the keypad of a session that was handed so many events, whatever else happened to
  it. -/
  session_agrees : ∀ {δ : Type} [Display δ] (s : Session δ) (os : List Occurrence) (n : Nat),
    s.machine.keypad = Keypad.fresh → keyEvents os = (b.callAll calls).2.take n →
      (b.whenSent (calls.flatMap Call.acts) n).Agrees (s.occurAll os).1.machine.keypad
  /-- Each release counts, and names its key and the generation of its latest press. -/
  releases : EachRelease (fun before code g =>
    ((Keypad.fresh.takeAll before).release code g).1 = true ∧
      latestPress? code before = some g) (b.callAll calls).2
  /-- The generations of the presses are 1, 2, 3 and so on. -/
  presses_eq : (pressGenerations (b.callAll calls).2).map UInt64.toNat =
    List.range' 1 (pressGenerations (b.callAll calls).2).length
  /-- No two releases are of one generation. -/
  released_nodup : (releaseGenerations (b.callAll calls).2).Nodup
  /-- A session that is handed the events in order, or the first of them, tells of no stale
  release. -/
  not_stale : ∀ {δ : Type} [Display δ] (s : Session δ) (os : List Occurrence),
    s.machine.keypad = Keypad.fresh → keyEvents os <+: (b.callAll calls).2 →
      ∀ code, Notice.staleRelease code ∉ (s.occurAll os).2

/-- **Keyboard and keypad stay together**, for every keymap and hold time and any calls at any
times, as long as generations do not wrap around. -/
theorem tracked_ofKeymap (keymap : Keymap) (holdTime : Nat) (calls : List Call)
    (hfew : (pressGenerations ((ofKeymap keymap holdTime).callAll calls).2).length <
      UInt64.size - 1) :
    (ofKeymap keymap holdTime).Tracked calls := by
  have hstart := coupled_ofKeymap keymap holdTime
  have hacts := callAll_eq_actAll (ofKeymap keymap holdTime) calls
  rw [hacts] at hfew
  have hend := coupled_earlier hstart (List.prefix_refl _) hfew
  refine
    { agrees := fun done hdone => ?_
      agrees_whenSent := fun n => ?_
      session_agrees := fun s os n hs hos => ?_
      releases := ?_
      presses_eq := ?_
      released_nodup := ?_
      not_stale := fun s os hs hos code => ?_ }
  · obtain ⟨rest, rfl⟩ := hdone
    rw [callAll_eq_actAll]
    refine (coupled_earlier hstart ?_ hfew).agrees
    rw [List.flatMap_append]
    exact List.prefix_append ..
  · rw [hacts]
    exact agrees_whenSent hstart _ n hfew
  · rw [Session.keypad_occurAll, hs, hos, hacts]
    exact agrees_whenSent hstart _ n hfew
  · rw [hacts]
    exact hend.releases
  · rw [hacts]
    exact hend.presses_eq
  · rw [hacts]
    exact hend.released_nodup
  · rw [hacts] at hos
    have hcounts : Keypad.fresh.AcceptsAll (keyEvents os) :=
      (hend.releases.earlier hos).imp fun before code g h => h.1
    rw [← hs] at hcounts
    exact Session.not_stale_of_acceptsAll hcounts code

/-- A key is struck, and again under a capital letter; another is struck as time goes backwards.
Both holds end in one call, and a third is ended by the terminal. -/
def exampleCalls : List Call :=
  [.receive (.key (.char 'q') {} .press) 0, .receive (.key (.char 'Q') {} .again) 50,
    .expire 120, .receive (.key (.char '1') {} .press) 55, .expire 160,
    .receive (.key (.char 'v') {} .press) 10, .receive (.key (.char 'v') {} .release) 5,
    .receive (.key .escape {} .press) 200]

theorem tracked_exampleCalls :
    ((ofKeymap Layout.conventional.keymap 100).callAll exampleCalls).2 =
        [.down 4 1, .down 4 2, .down 1 3, .up 1 3, .up 4 2, .down 15 4, .up 15 4, .quit] ∧
      (ofKeymap Layout.conventional.keymap 100).Tracked exampleCalls := by
  have hsent : ((ofKeymap Layout.conventional.keymap 100).callAll exampleCalls).2 =
      [.down 4 1, .down 4 2, .down 1 3, .up 1 3, .up 4 2, .down 15 4, .up 15 4, .quit] := by
    decide +kernel
  refine ⟨hsent, tracked_ofKeymap Layout.conventional.keymap 100 exampleCalls ?_⟩
  rw [hsent]
  decide

end Keyboard

end Chip8
