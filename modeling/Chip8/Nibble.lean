/-!
# Nibbles

Four bits.  Nibbles number the registers, the keys, the places on the stack and
the rows of a sprite.

## Main definitions

* `Nibble`: the sixteen nibbles, which may be written as numerals
* `Nibble.low`: the low nibble of a number
-/

namespace Chip8

/-- A number of four bits. -/
abbrev Nibble := Fin 16

namespace Nibble

/-- Sixteen is not zero, so numerals stand for nibbles.  The zero is the one that numerals ask
for. -/
instance neZero_sixteen : @NeZero Nat Zero.ofOfNat0 16 :=
  ⟨by decide⟩

/-- The four low bits of a number. -/
def low (n : Nat) : Nibble :=
  ⟨n % 16, Nat.mod_lt n (by decide)⟩

@[simp] theorem val_low (n : Nat) : (low n).val = n % 16 :=
  rfl

@[simp] theorem low_val (k : Nibble) : low k.val = k :=
  Fin.ext (Nat.mod_eq_of_lt k.isLt)

end Nibble

end Chip8
