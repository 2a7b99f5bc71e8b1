/-!
# Decimal numbers

Numbers as people type them: decimal digits with an optional plus sign in
front.  Leading zeros are allowed; signs alone, blanks, underscores and
anything else are not.
-/

namespace Chip8.Decimal

/-- The digit that a character stands for. -/
def digitValue? (c : Char) : Option Nat :=
  if 0x30 ≤ c.toNat ∧ c.toNat ≤ 0x39 then some (c.toNat - 0x30) else none

/-- The number that digits spell, continuing from `acc`. -/
def valueFrom? (acc : Nat) : List Char → Option Nat
  | [] => some acc
  | c :: r => (digitValue? c).bind fun d => valueFrom? (10 * acc + d) r

/-- The number that one or more digits spell. -/
def digits? : List Char → Option Nat
  | [] => none
  | cs => valueFrom? 0 cs

/-- The number that a text spells. -/
def value? (s : String) : Option Nat :=
  match s.toList with
  | '+' :: r => digits? r
  | cs => digits? cs

end Chip8.Decimal
