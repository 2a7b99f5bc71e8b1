import Chip8.Proofs.Guarded.Numbers

/-!
# The keypad does not trap

A keypad is as good as a mask of sixteen bits with a table of generations:
pressing sets a bit and notes the generation, a release that counts clears the
bit, and the low nibble of a code never shifts a bit out of the mask.

## Main results

* `ofMask_eq`: a keypad is known by its mask and its generations
* `isPressed_eq`, `press_eq`, `release_eq`: questions, presses and releases
-/

namespace Chip8.Guarded

theorem testBit_mask_and (mask : UInt16) {k : Nat} (hk : k < 16) :
    (mask &&& (1 <<< UInt16.ofNat k) != 0) = mask.toNat.testBit k := by
  rw [Bool.eq_iff_iff, bne_iff_ne, ne_eq, ← UInt16.toNat_inj, UInt16.toNat_and,
    toNat_one_shiftLeft hk]
  show ¬ mask.toNat &&& 1 <<< k = 0 ↔ _
  rw [and_shiftLeft_eq_zero_iff, Bool.not_eq_false]

theorem isPressed_eq (p : Keypad) (code : UInt8) : isPressed p code = .ok (p.isPressed code) := by
  unfold isPressed Keypad.isPressed
  by_cases h : code.toNat < 16
  · rw [if_pos h, dif_pos h, shiftLeft16_of_lt 1 h, ok_bind, testBit_mask_and p.mask h,
      ← Keypad.testBit_mask]
    rfl
  · rw [if_neg h, dif_neg h]
    rfl

/-- The low nibble of a code, taken with a mask, names its key. -/
theorem toNat_low (code : UInt8) : (code &&& 0x0F).toNat = (Key.ofCode code).val := by
  rw [UInt8.toNat_and]
  exact Nat.and_two_pow_sub_one_eq_mod _ 4

theorem index_low (code : UInt8) : index 16 (code &&& 0x0F).toNat = .ok (Key.ofCode code) := by
  rw [toNat_low, index_val]

theorem isPressed_low (p : Keypad) (code : UInt8) :
    p.isPressed (code &&& 0x0F) = p.isDown (Key.ofCode code) := by
  have h : (code &&& 0x0F).toNat < 16 := toNat_low code ▸ (Key.ofCode code).isLt
  rw [Keypad.isPressed, dif_pos h]
  exact congrArg p.isDown (Fin.ext (toNat_low code))

/-- A keypad is known by its mask and its generations. -/
theorem ofMask_eq {mask : UInt16} {latest : Bank UInt64} {p : Keypad}
    (hmask : ∀ k, mask.toNat.testBit k.val = p.isDown k)
    (hlatest : ∀ k, latest.get k = (p.keys.get k).generation) : ofMask mask latest = p := by
  obtain ⟨keys⟩ := p
  refine congrArg Keypad.mk (Bank.ext_get fun k => ?_)
  rw [Bank.get_ofFn, hmask, hlatest]
  rfl

@[simp] theorem get_generations (p : Keypad) (k : Key) :
    (generations p).get k = (p.keys.get k).generation :=
  Bank.get_ofFn _ k

theorem testBit_one_shiftLeft (j k : Key) :
    ((1 : UInt16) <<< UInt16.ofNat k.val).toNat.testBit j.val = decide (j = k) := by
  rw [toNat_one_shiftLeft k.isLt, Nat.one_shiftLeft, Nat.testBit_two_pow]
  exact decide_eq_decide.mpr ⟨fun h => Fin.ext h.symm, fun h => congrArg Fin.val h.symm⟩

theorem testBit_not_one_shiftLeft (j k : Key) :
    (~~~((1 : UInt16) <<< UInt16.ofNat k.val)).toNat.testBit j.val = !decide (j = k) := by
  have hlt := ((1 : UInt16) <<< UInt16.ofNat k.val).toNat_lt
  have h := Nat.testBit_two_pow_sub_succ hlt j.val
  rw [testBit_one_shiftLeft, decide_eq_true j.isLt, Bool.true_and] at h
  rw [UInt16.toNat_not, ← h]
  congr 1
  show 65536 - 1 - _ = 65536 - (_ + 1)
  omega

theorem press_eq (p : Keypad) (code : UInt8) (generation : UInt64) :
    press p code generation = .ok (p.press code generation) := by
  have hk : (code &&& 0x0F).toNat < 16 := toNat_low code ▸ (Key.ofCode code).isLt
  rw [press, shiftLeft16_of_lt 1 hk, ok_bind, index_low, ok_bind, toNat_low]
  refine congrArg Except.ok (ofMask_eq (fun k => ?_) fun k => ?_)
  · rw [UInt16.toNat_or, Nat.testBit_or, testBit_one_shiftLeft, Keypad.testBit_mask,
      Keypad.isDown_press, Bool.or_comm]
  · rw [Bank.get_set, Keypad.press, Bank.get_set, get_generations]
    split <;> rfl

theorem release_eq (p : Keypad) (code : UInt8) (generation : UInt64) :
    release p code generation = .ok (p.release code generation) := by
  have hk : (code &&& 0x0F).toNat < 16 := toNat_low code ▸ (Key.ofCode code).isLt
  have haccepts : (p.isPressed (code &&& 0x0F) &&
      (generations p).get (Key.ofCode code) == generation) = p.accepts code generation := by
    rw [isPressed_low, get_generations]
    rfl
  rw [release, index_low, ok_bind, isPressed_eq, ok_bind, haccepts]
  unfold Keypad.release
  by_cases ha : p.accepts code generation = true
  · rw [if_pos ha, if_pos ha, shiftLeft16_of_lt 1 hk, ok_bind, toNat_low]
    -- The plain release writes the generation that it was told; it is the one that was there.
    have hgeneration : (p.keys.get (Key.ofCode code)).generation = generation :=
      eq_of_beq (Bool.and_eq_true_iff.mp ha).2
    refine congrArg Except.ok (Prod.ext rfl (ofMask_eq (fun k => ?_) fun k => ?_))
    · rw [UInt16.toNat_and, Nat.testBit_and, testBit_not_one_shiftLeft, Keypad.testBit_mask]
      show _ = ((p.keys.set (Key.ofCode code) ⟨false, generation⟩).get k).pressed
      rw [Bank.get_set]
      by_cases hkey : k = Key.ofCode code
      · rw [if_pos hkey, decide_eq_true hkey, Bool.not_true, Bool.and_false]
      · rw [if_neg hkey, decide_eq_false hkey, Bool.not_false, Bool.and_true]
        rfl
    · show _ = ((p.keys.set (Key.ofCode code) ⟨false, generation⟩).get k).generation
      rw [Bank.get_set, get_generations]
      by_cases hkey : k = Key.ofCode code
      · rw [if_pos hkey, hkey, hgeneration]
      · rw [if_neg hkey]
  · rw [if_neg ha, if_neg ha]
    rfl

end Chip8.Guarded
