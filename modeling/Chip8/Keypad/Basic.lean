import Chip8.Bank

/-!
# The keypad

Sixteen keys.  Every press carries a generation number, and a release only
counts if it names the generation of the latest press of its key, so that a
late release cannot undo a newer press.

Presses and releases look at the low nibble of a key code.  Questions about a
key do not: a code above `0xF` names no key, and none that is ever down.

## Main definitions

* `Keypad.press`, `Keypad.release`: what events do
* `Keypad.isPressed`, `Keypad.first?`, `Keypad.mask`: which keys are down

## Main results

* `Keypad.isDown_press`, `Keypad.isDown_release`: which keys are down after an
  event
* `Keypad.testBit_mask`, `Keypad.mask_eq_iff`: the bits of the mask
-/

namespace Chip8

/-- One of the sixteen keys. -/
abbrev Key := Nibble

namespace Key

/-- The key that the low nibble of a code names. -/
def ofCode (code : UInt8) : Key :=
  Nibble.low code.toNat

/-- The code of a key. -/
def code (k : Key) : UInt8 :=
  UInt8.ofNat k.val

@[simp] theorem ofCode_code (k : Key) : ofCode (code k) = k := by
  apply Fin.ext
  have h := k.isLt
  simp only [ofCode, code, Nibble.val_low, UInt8.toNat_ofNat']
  omega

end Key

/-- What the keypad knows of one key. -/
structure KeyState where
  /-- Whether the key is down. -/
  pressed : Bool := false
  /-- The generation of its latest press. -/
  generation : UInt64 := 0
  deriving DecidableEq, Repr

/-- The state of all keys. -/
structure Keypad where
  /-- One entry for each key. -/
  keys : Bank KeyState
  deriving DecidableEq

namespace Keypad

/-- No key has been pressed yet. -/
def fresh : Keypad :=
  ⟨Bank.replicate {}⟩

/-- Whether a key is down. -/
def isDown (p : Keypad) (k : Key) : Bool :=
  (p.keys.get k).pressed

/-- Whether a code names a key that is down. -/
def isPressed (p : Keypad) (code : UInt8) : Bool :=
  if h : code.toNat < 16 then p.isDown ⟨code.toNat, h⟩ else false

/-- The lowest key that is down. -/
def first? (p : Keypad) : Option Key :=
  (List.finRange 16).find? fun k => p.isDown k

/-- The number whose binary digits, lowest first, are given. -/
def ofBits : List Bool → Nat
  | [] => 0
  | b :: r => b.toNat + 2 * ofBits r

/-- The keys that are down as a mask: bit `k` stands for key `k`. -/
def mask (p : Keypad) : UInt16 :=
  UInt16.ofNat (ofBits (p.keys.toList.map KeyState.pressed))

/-- The keypad after a press. -/
def press (p : Keypad) (code : UInt8) (generation : UInt64) : Keypad :=
  ⟨p.keys.set (Key.ofCode code) ⟨true, generation⟩⟩

/-- Whether a release ends the latest press of its key. -/
def accepts (p : Keypad) (code : UInt8) (generation : UInt64) : Bool :=
  p.isDown (Key.ofCode code) && (p.keys.get (Key.ofCode code)).generation == generation

/-- Whether a release counts, and the keypad after it. -/
def release (p : Keypad) (code : UInt8) (generation : UInt64) : Bool × Keypad :=
  if p.accepts code generation then
    (true, ⟨p.keys.set (Key.ofCode code) ⟨false, generation⟩⟩)
  else (false, p)

/-! ## Which keys are down after an event -/

@[simp] theorem isDown_fresh (k : Key) : fresh.isDown k = false := by
  simp [fresh, isDown]

theorem isDown_press (p : Keypad) (code : UInt8) (g : UInt64) (k : Key) :
    (p.press code g).isDown k = (decide (k = Key.ofCode code) || p.isDown k) := by
  simp only [isDown, press, Bank.get_set]
  by_cases h : k = Key.ofCode code
  · simp [h]
  · simp [h]

/-- A release that counts lets its own key go up and no other. -/
theorem isDown_release (p : Keypad) (code : UInt8) (g : UInt64) (k : Key) :
    (p.release code g).2.isDown k =
      (p.isDown k && !(p.accepts code g && decide (k = Key.ofCode code))) := by
  unfold release
  by_cases ha : p.accepts code g = true
  · simp only [ha, if_true, isDown, Bank.get_set]
    by_cases h : k = Key.ofCode code
    · simp [h]
    · simp [h]
  · simp [ha]

theorem fst_release (p : Keypad) (code : UInt8) (g : UInt64) :
    (p.release code g).1 = p.accepts code g := by
  unfold release
  by_cases ha : p.accepts code g = true
  · simp [ha]
  · simp [ha]

/-! ## The bits of the mask -/

theorem testBit_ofBits (bits : List Bool) (i : Nat) :
    (ofBits bits).testBit i = bits.getD i false := by
  induction bits generalizing i with
  | nil => simp [ofBits]
  | cons b r ih =>
    cases i with
    | zero => cases b <;> simp [ofBits, Nat.testBit_zero, Nat.add_mod]
    | succ i =>
      have hdiv : (b.toNat + 2 * ofBits r) / 2 = ofBits r := by
        have hb := b.toNat_lt
        omega
      simp [ofBits, Nat.testBit_succ, hdiv, ih]

theorem ofBits_lt (bits : List Bool) : ofBits bits < 1 <<< bits.length := by
  rw [Nat.one_shiftLeft]
  induction bits with
  | nil => simp [ofBits]
  | cons b r ih =>
    have hb := b.toNat_lt
    simp only [ofBits, List.length_cons, Nat.pow_succ]
    omega

/-- Bit `k` of the mask tells whether key `k` is down. -/
theorem testBit_mask (p : Keypad) (k : Key) : p.mask.toNat.testBit k.val = p.isDown k := by
  have hlt := ofBits_lt (p.keys.toList.map KeyState.pressed)
  have hlen : (p.keys.toList.map KeyState.pressed).length = 16 := by simp
  rw [hlen] at hlt
  have hmask : p.mask.toNat = ofBits (p.keys.toList.map KeyState.pressed) := by
    simp only [mask, UInt16.toNat_ofNat']
    exact Nat.mod_eq_of_lt hlt
  rw [hmask, testBit_ofBits, List.getD_eq_getElem?_getD, List.getElem?_map, Bank.getElem?_toList]
  rfl

/-- The mask tells which keys are down and nothing else. -/
theorem mask_eq_iff {p q : Keypad} : p.mask = q.mask ↔ ∀ k, p.isDown k = q.isDown k := by
  constructor
  · intro h k
    rw [← testBit_mask, ← testBit_mask, h]
  · intro h
    have hbits : p.keys.toList.map KeyState.pressed = q.keys.toList.map KeyState.pressed := by
      apply List.ext_getElem?
      intro i
      by_cases hi : i < 16
      · have hk := congrArg some (h ⟨i, hi⟩)
        rw [List.getElem?_map, List.getElem?_map, p.keys.getElem?_toList ⟨i, hi⟩,
          q.keys.getElem?_toList ⟨i, hi⟩]
        exact hk
      · have hlen : ∀ keys : Bank KeyState, (keys.toList.map KeyState.pressed)[i]? = none := by
          intro keys
          apply List.getElem?_eq_none
          rw [List.length_map, Bank.length_toList]
          omega
        rw [hlen, hlen]
    rw [mask, mask, hbits]

theorem mask_fresh : fresh.mask = 0 := rfl

end Keypad

end Chip8
