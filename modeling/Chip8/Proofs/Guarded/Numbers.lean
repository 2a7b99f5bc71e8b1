import Chip8.Proofs.Guarded.Basic
import Mathlib.Data.Nat.Bitwise

/-!
# Numbers that fit

A guarded operation on numbers that fit gives what the plain one gives.  Words
are looked at through their values, and their bits through those of the values.

## Main results

* `index_val`, `add16_of_lt`, `sub16_of_le`, `count_of_lt`: numbers that fit
* `bit_eq_false_iff`: a mask of one bit looks at one pixel
* `decode_eq`: the nibbles of a word are nibbles
-/

namespace Chip8.Guarded

@[simp] theorem ok_bind {α β : Type} (a : α) (f : α → Except Trap β) :
    ((.ok a : Except Trap α) >>= f) = f a := rfl

@[simp] theorem pure_eq_ok {α : Type} (a : α) : (pure a : Except Trap α) = .ok a := rfl

/-! ## Places and sums -/

theorem index_of_lt {size i : Nat} (h : i < size) : index size i = .ok ⟨i, h⟩ :=
  dif_pos h

@[simp] theorem index_val {size : Nat} (k : Fin size) : index size k.val = .ok k :=
  index_of_lt k.isLt

theorem range_of_le {size start len : Nat} (h : start + len ≤ size) :
    range size start len = .ok () :=
  if_pos h

@[simp] theorem sameLength_self (n : Nat) : sameLength n n = .ok () :=
  if_pos rfl

theorem count_of_lt {n : Nat} (h : n < UInt64.size) : count n = .ok n :=
  if_pos h

theorem add16_of_lt {a b : UInt16} (h : a.toNat + b.toNat < UInt16.size) :
    add16 a b = .ok (a + b) :=
  if_pos h

theorem mul16_of_lt {a b : UInt16} (h : a.toNat * b.toNat < UInt16.size) :
    mul16 a b = .ok (a * b) :=
  if_pos h

theorem sub16_of_le {a b : UInt16} (h : b.toNat ≤ a.toNat) : sub16 a b = .ok (a - b) :=
  if_pos h

theorem shiftLeft16_of_lt (a : UInt16) {k : Nat} (h : k < 16) :
    shiftLeft16 a k = .ok (a <<< UInt16.ofNat k) :=
  if_pos h

theorem shiftRight16_of_lt (a : UInt16) {k : Nat} (h : k < 16) :
    shiftRight16 a k = .ok (a >>> UInt16.ofNat k) :=
  if_pos h

theorem shiftLeft8_of_lt (b : UInt8) {k : Nat} (h : k < 8) :
    shiftLeft8 b k = .ok (b <<< UInt8.ofNat k) :=
  if_pos h

theorem shiftRight8_of_lt (b : UInt8) {k : Nat} (h : k < 8) :
    shiftRight8 b k = .ok (b >>> UInt8.ofNat k) :=
  if_pos h

/-! ## Bits -/

/-- A number has no bit in common with a power of two if that bit is not set. -/
theorem and_shiftLeft_eq_zero_iff (n k : Nat) : n &&& 1 <<< k = 0 ↔ n.testBit k = false := by
  rw [Nat.one_shiftLeft, Nat.and_two_pow]
  cases n.testBit k with
  | false => simp
  | true => simp

/-- A mask of one bit looks at one pixel of a byte. -/
theorem bit_eq_false_iff (b : UInt8) (k : Nat) :
    b &&& Packed.mask k = 0 ↔ Packed.bit b k = false := by
  rw [← UInt8.toNat_inj, UInt8.toNat_and, Packed.toNat_mask]
  exact and_shiftLeft_eq_zero_iff b.toNat (7 - k)

/-- The mask of a pixel is the leftmost one moved to the right. -/
theorem shiftRight8_eq_mask {k : Nat} (h : k < 8) : shiftRight8 0x80 k = .ok (Packed.mask k) := by
  rw [shiftRight8_of_lt 0x80 h]
  have hmask : ∀ k, k < 8 → (0x80 : UInt8) >>> UInt8.ofNat k = Packed.mask k := by decide
  rw [hmask k h]

theorem lowBit_eq (b : UInt8) : (b &&& 0x01 != 0) = Machine.lowBit b := by
  have h := bit_eq_false_iff b 7
  have hbit : Packed.bit b 7 = Machine.lowBit b := Nat.testBit_zero b.toNat
  rw [hbit] at h
  rw [Bool.eq_iff_iff, bne_iff_ne, ne_eq]
  show ¬ b &&& Packed.mask 7 = 0 ↔ _
  rw [h, Bool.not_eq_false]

theorem highBit_eq (b : UInt8) : (b &&& 0x80 != 0) = Machine.highBit b := by
  have h := bit_eq_false_iff b 0
  have hbit : Packed.bit b 0 = Machine.highBit b := by
    have hlt := b.toNat_lt
    rw [Packed.bit, Nat.testBit_eq_decide_div_mod_eq, Machine.highBit]
    exact decide_eq_decide.mpr ⟨fun _ => by omega, fun _ => by omega⟩
  rw [hbit] at h
  rw [Bool.eq_iff_iff, bne_iff_ne, ne_eq]
  show ¬ b &&& Packed.mask 0 = 0 ↔ _
  rw [h, Bool.not_eq_false]

theorem toNat_one_shiftLeft {k : Nat} (h : k < 16) :
    ((1 : UInt16) <<< UInt16.ofNat k).toNat = 1 <<< k := by
  have hall : ∀ k, k < 16 → ((1 : UInt16) <<< UInt16.ofNat k).toNat = 1 <<< k := by decide
  exact hall k h

/-! ## Words -/

/-- Two bytes next to each other are the word that they are put together to. -/
theorem shiftLeft_or_eq_ofBytes (hi lo : UInt8) :
    (hi.toUInt16 <<< UInt16.ofNat 8) ||| lo.toUInt16 = Word.ofBytes hi lo := by
  have hhi := hi.toNat_lt
  have hlo := lo.toNat_lt
  apply UInt16.toNat_inj.mp
  have hshift : (hi.toUInt16 <<< UInt16.ofNat 8).toNat = hi.toNat <<< 8 := by
    rw [UInt16.toNat_shiftLeft]
    show hi.toNat <<< 8 % 65536 = hi.toNat <<< 8
    rw [Nat.shiftLeft_eq]
    omega
  rw [UInt16.toNat_or, hshift]
  show hi.toNat <<< 8 ||| lo.toNat = (hi.toNat * 256 + lo.toNat) % 65536
  rw [← Nat.shiftLeft_add_eq_or_of_lt hlo, Nat.shiftLeft_eq]
  omega

/-- A mask over four bits and a shift look at one nibble. -/
theorem index_and_shiftRight (w mask : Word) {s : Nat} (hs : s < 16)
    (hmask : mask.toNat >>> s = 15) :
    index 16 ((w &&& mask) >>> UInt16.ofNat s).toNat = .ok (Nibble.low (w.toNat >>> s)) := by
  have hmod : s % UInt16.size % 16 = s := by
    rw [Nat.mod_eq_of_lt (Nat.lt_trans hs (by decide)), Nat.mod_eq_of_lt hs]
  have h : ((w &&& mask) >>> UInt16.ofNat s).toNat = (Nibble.low (w.toNat >>> s)).val := by
    rw [UInt16.toNat_shiftRight, UInt16.toNat_and]
    show (w.toNat &&& mask.toNat) >>> (s % UInt16.size % 16) = w.toNat >>> s % 16
    rw [hmod, Nat.shiftRight_and_distrib, hmask]
    exact Nat.and_two_pow_sub_one_eq_mod _ 4
  rw [h, index_val]

/-- The nibbles of a word, taken with masks and shifts, are nibbles, and they make up the
word. -/
theorem decode_eq (w : Word) : decode w = .ok (Instruction.decode w) := by
  have hkind : index 16 (w >>> UInt16.ofNat 12).toNat =
      .ok ⟨Word.kind w, Instruction.kind_lt w⟩ := by
    have h : (w >>> UInt16.ofNat 12).toNat = Word.kind w := Nat.shiftRight_eq_div_pow ..
    rw [index_of_lt (h ▸ Instruction.kind_lt w)]
    exact congrArg Except.ok (Fin.ext h)
  have hx : index 16 ((w &&& 0x0F00) >>> UInt16.ofNat 8).toNat = .ok (Word.x w) := by
    rw [index_and_shiftRight w 0x0F00 (by decide) (by decide), Nat.shiftRight_eq_div_pow]
    rfl
  have hy : index 16 ((w &&& 0x00F0) >>> UInt16.ofNat 4).toNat = .ok (Word.y w) := by
    rw [index_and_shiftRight w 0x00F0 (by decide) (by decide), Nat.shiftRight_eq_div_pow]
    rfl
  have hn : index 16 (w &&& 0x000F).toNat = .ok (Word.n w) := by
    have h : (w &&& 0x000F).toNat = (Word.n w).val := by
      rw [UInt16.toNat_and]
      exact Nat.and_two_pow_sub_one_eq_mod _ 4
    rw [h, index_val]
  rw [decode, shiftRight16_of_lt _ (by decide), ok_bind, hkind, ok_bind,
    shiftRight16_of_lt _ (by decide), ok_bind, hx, ok_bind,
    shiftRight16_of_lt _ (by decide), ok_bind, hy, ok_bind, hn, ok_bind, Word.ofFields_fields]
  rfl

end Chip8.Guarded
