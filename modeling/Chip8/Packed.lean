/-!
# Packed pixels

Pixels are packed eight to a byte, the leftmost in the most significant bit.
`Packed.bit` reads a pixel of a byte, `Packed.bitAt` one of consecutive bytes,
and `Packed.flip` inverts one.

## Main results

* `bit_flip`: flipping a pixel inverts it and leaves the seven others alone
-/

namespace Chip8.Packed

/-- Pixel `k` of a byte, counted from the left. -/
def bit (b : UInt8) (k : Nat) : Bool :=
  b.toNat.testBit (7 - k)

/-- The byte with only pixel `k` set. -/
def mask (k : Nat) : UInt8 :=
  UInt8.ofNat (1 <<< (7 - k))

/-- The byte with pixel `k` inverted. -/
def flip (b : UInt8) (k : Nat) : UInt8 :=
  b ^^^ mask k

/-- Pixel `i` of consecutive bytes; beyond their end nothing is set. -/
def bitAt (data : List UInt8) (i : Nat) : Bool :=
  bit (data.getD (i / 8) 0) (i % 8)

theorem toNat_mask (k : Nat) : (mask k).toNat = 1 <<< (7 - k) := by
  have h : 2 ^ (7 - k) ≤ 2 ^ 7 := Nat.pow_le_pow_right (by decide) (by omega)
  simp only [mask, UInt8.toNat_ofNat', Nat.one_shiftLeft]
  exact Nat.mod_eq_of_lt (by omega)

/-- Flipping a pixel inverts it and leaves the seven others alone. -/
theorem bit_flip (b : UInt8) {j k : Nat} (hj : j < 8) (hk : k < 8) :
    bit (flip b k) j = (bit b j ^^ decide (j = k)) := by
  simp only [bit, flip, UInt8.toNat_xor, toNat_mask, Nat.one_shiftLeft, Nat.testBit_xor,
    Nat.testBit_two_pow]
  congr 1
  exact decide_eq_decide.mpr ⟨fun h => by omega, fun h => by omega⟩

end Chip8.Packed
