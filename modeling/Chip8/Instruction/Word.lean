import Chip8.Nibble

/-!
# Instruction words

An instruction is one 16-bit word.  Whatever it means, it falls into the same
fields:

    kind x    y    n
    1101 0001 0010 1111
         |-- address --|   the low twelve bits
              |- byte -|   the low eight bits

Every word has all fields; which of them matter is for the decoder to say.
`ofFields` puts a word together again, and `ofFields_fields` says that the
four nibbles determine it.
-/

namespace Chip8

/-- One of the sixteen registers V0 to VF. -/
abbrev Register := Nibble

/-- A twelve-bit address, as instructions carry it. -/
abbrev Address := Fin 4096

/-- The twelve low bits of a number. -/
def Address.low (n : Nat) : Address :=
  ⟨n % 4096, Nat.mod_lt n (by decide)⟩

@[simp] theorem Address.val_low (n : Nat) : (Address.low n).val = n % 4096 :=
  rfl

@[simp] theorem Address.low_val (a : Address) : Address.low a.val = a :=
  Fin.ext (Nat.mod_eq_of_lt a.isLt)

/-- An instruction word. -/
abbrev Word := UInt16

namespace Word

/-- The highest nibble, which tells the kinds of instructions apart. -/
def kind (w : Word) : Nat :=
  w.toNat / 4096

/-- The second nibble, usually a register. -/
def x (w : Word) : Register :=
  Nibble.low (w.toNat / 256)

/-- The third nibble, usually a register. -/
def y (w : Word) : Register :=
  Nibble.low (w.toNat / 16)

/-- The lowest nibble. -/
def n (w : Word) : Nibble :=
  Nibble.low w.toNat

/-- The low byte. -/
def byte (w : Word) : UInt8 :=
  UInt8.ofNat (w.toNat % 256)

/-- The low twelve bits. -/
def address (w : Word) : Address :=
  Address.low w.toNat

/-- The four nibbles, highest first. -/
def nibbles (w : Word) : List Nat :=
  [kind w, (x w).val, (y w).val, (n w).val]

/-- The word whose first byte is `hi` and whose second byte is `lo`. -/
def ofBytes (hi lo : UInt8) : Word :=
  UInt16.ofNat (hi.toNat * 256 + lo.toNat)

/-- The word of a kind and twelve low bits. -/
def ofAddress (kind : Nat) (a : Address) : Word :=
  UInt16.ofNat (kind * 4096 + a.val)

/-- The word of a kind, a register and a byte. -/
def ofByte (kind : Nat) (x : Register) (b : UInt8) : Word :=
  UInt16.ofNat (kind * 4096 + x.val * 256 + b.toNat)

/-- The word of a kind and three low nibbles. -/
def ofFields (kind : Nat) (x y : Register) (n : Nat) : Word :=
  UInt16.ofNat (kind * 4096 + x.val * 256 + y.val * 16 + n)

@[simp] theorem toNat_byte (w : Word) : (byte w).toNat = w.toNat % 256 := by
  simp [byte]

theorem ofAddress_fields (w : Word) : ofAddress (kind w) (address w) = w := by
  apply UInt16.toNat_inj.mp
  have h := w.toNat_lt
  simp only [ofAddress, kind, address, Address.val_low, UInt16.toNat_ofNat']
  omega

theorem ofByte_fields (w : Word) : ofByte (kind w) (x w) (byte w) = w := by
  apply UInt16.toNat_inj.mp
  have h := w.toNat_lt
  simp only [ofByte, kind, x, Nibble.val_low, toNat_byte, UInt16.toNat_ofNat']
  omega

theorem ofFields_fields (w : Word) : ofFields (kind w) (x w) (y w) (n w).val = w := by
  apply UInt16.toNat_inj.mp
  have h := w.toNat_lt
  simp only [ofFields, kind, x, y, n, Nibble.val_low, UInt16.toNat_ofNat']
  omega

end Word

end Chip8
