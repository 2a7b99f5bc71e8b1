import Chip8.Memory.Basic

/-!
# Program images

An image comes from a source that may fail after it has delivered its bytes.
Loading is all or nothing: a failing source and an image that is too large
leave memory as it is, and of the two the failing source is reported.
-/

namespace Chip8

/-- A program image as its source delivers it. -/
structure Image where
  /-- The bytes delivered. -/
  bytes : List UInt8
  /-- What the source failed with after the last byte, if it did. -/
  failure : Option String := none
  deriving DecidableEq, Repr

/-- Why an image was not loaded. -/
inductive LoadError
  /-- The source failed. -/
  | source (reason : String)
  /-- The image has more bytes than fit above the start of programs. -/
  | tooLarge (size : Nat)
  deriving DecidableEq, Repr

/-- A failed load in words. -/
def LoadError.message : LoadError → String
  | source reason => "i/o error: " ++ reason
  | tooLarge size =>
    "program image is " ++ toString size ++ " bytes, at most " ++ toString Memory.maxImageSize
      ++ " bytes fit above " ++ Hex.address 3 Memory.programStart

/-- Memory with an image put where programs start. -/
def Memory.load (m : Memory) (image : Image) : Except LoadError Memory :=
  match image.failure with
  | some reason => .error (.source reason)
  | none =>
    if image.bytes.length ≤ maxImageSize then .ok (m.overlay programStart image.bytes)
    else .error (.tooLarge image.bytes.length)

end Chip8
