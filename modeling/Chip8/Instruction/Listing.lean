import Chip8.Instruction.Decode
import Chip8.Instruction.Assembly
import Chip8.Memory.Basic

/-!
# Listings of program images

A listing walks an image two bytes at a time, as the image lies in memory from
`Memory.programStart`.  An odd last byte is followed by a zero, and bytes
beyond the end of memory are left out.
-/

namespace Chip8

/-- One line of a listing. -/
structure Listing.Entry where
  /-- Where the word lies in memory. -/
  address : UInt16
  /-- The word itself. -/
  word : Word
  /-- What the word decodes to. -/
  instruction : Instruction
  deriving DecidableEq, Repr

namespace Listing

/-- The words that consecutive bytes form. -/
def words : List UInt8 → List Word
  | hi :: lo :: r => Word.ofBytes hi lo :: words r
  | [hi] => [Word.ofBytes hi 0]
  | [] => []

/-- The entry for the word number `k` of an image. -/
def entry (k : Nat) (w : Word) : Entry :=
  ⟨UInt16.ofNat (Memory.programStart + 2 * k), w, Instruction.decode w⟩

/-- The listing of an image. -/
def ofImage (image : List UInt8) : List Entry :=
  (words (image.take Memory.maxImageSize)).mapIdx entry

/-- A line as it is printed: the address, the word and the instruction. -/
def Entry.text (e : Entry) : String :=
  "0x" ++ String.ofList (Hex.padded .upper 3 e.address.toNat)
    ++ " - " ++ String.ofList (Hex.fixed .upper 4 e.word.toNat)
    ++ "  " ++ e.instruction.text

end Listing

end Chip8
