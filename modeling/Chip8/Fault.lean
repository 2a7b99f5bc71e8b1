import Chip8.Text.Hex

/-!
# Faults

What can go wrong with a single instruction.  A fault says which rule was
broken and with which numbers; `Fault.message` puts it into words.
-/

namespace Chip8

/-- Why an instruction could not be carried out. -/
inductive Fault
  /-- The range of `len` bytes at an address reaches beyond the end of memory. -/
  | addressOutOfBounds (addr : UInt16) (len : Nat)
  /-- The program counter is odd. -/
  | misalignedPc (pc : UInt16)
  /-- A call while every place on the stack is taken. -/
  | stackOverflow
  /-- A return while the stack is empty. -/
  | stackUnderflow
  deriving DecidableEq, Repr

/-- A fault in words. -/
def Fault.message : Fault → String
  | addressOutOfBounds addr len =>
    "memory access out of bounds at " ++ Hex.address 4 addr.toNat
      ++ " (+" ++ toString len ++ " bytes)"
  | misalignedPc pc =>
    "program counter " ++ Hex.address 4 pc.toNat ++ " is not instruction-aligned"
  | stackOverflow => "stack overflow: calls nested deeper than 16 levels"
  | stackUnderflow => "stack underflow: return with no pending call"

end Chip8
