import Chip8.Memory.Basic

/-!
# Accesses with 64-bit lengths

Outside the machine, the length of a range is a 64-bit number, and so must be
its end.  A range that lies beyond the end of memory is a fault; a range whose
end is no 64-bit number at all is none, but a mistake of the caller.
-/

namespace Chip8

/-- Why a range could not be accessed. -/
inductive AccessError
  /-- The range leaves memory. -/
  | fault (f : Fault)
  /-- The end of the range is no 64-bit number. -/
  | endTooLarge
  deriving DecidableEq, Repr

namespace Memory

/-- Whether the range of `len` bytes at an address ends at a 64-bit number. -/
def EndFits (addr : UInt16) (len : UInt64) : Prop :=
  addr.toNat + len.toNat < UInt64.size

instance (addr : UInt16) (len : UInt64) : Decidable (EndFits addr len) :=
  inferInstanceAs (Decidable (_ < _))

/-- The bytes of a range. -/
def readRange (m : Memory) (addr : UInt16) (len : UInt64) : Except AccessError (List UInt8) :=
  if EndFits addr len then (m.read addr len.toNat).mapError .fault else .error .endTooLarge

/-- Memory with all bytes of a range set to one value. -/
def fillRange (m : Memory) (addr : UInt16) (len : UInt64) (value : UInt8) :
    Except AccessError Memory :=
  if EndFits addr len then (m.fill addr len.toNat value).mapError .fault else .error .endTooLarge

end Memory

end Chip8
