import Chip8.Memory.Basic

/-!
# Sprites

A sprite is up to fifteen rows of eight pixels.  Drawing inverts a pixel of
the frame for every pixel set in the sprite, wrapping around at both edges,
and tells whether any pixel that was lit went dark.

The rows of the sprite are given as bytes, so what is drawn does not change
if drawing writes over the memory that they came from.
-/

namespace Chip8.Sprite

/-- How many pixels a row of the frame has. -/
def frameWidth : Nat := 64

/-- How many rows the frame has. -/
def frameHeight : Nat := 32

/-- How many pixels a row of a sprite has. -/
def width : Nat := 8

/-- The pixel of the frame at a position, wrapping around at both edges. -/
def pixelIndex (x y : Nat) : Nat :=
  y % frameHeight * frameWidth + x % frameWidth

/-- The pixels of the frame that a row of a sprite covers where it is set. -/
def rowPixels (x y : Nat) (row : UInt8) : List Nat :=
  ((List.range width).filter (Packed.bit row)).map fun c => pixelIndex (x + c) y

/-- The pixels of the frame that a sprite covers where it is set, row by row. -/
def pixels (x y : Nat) : List UInt8 → List Nat
  | [] => []
  | row :: rest => rowPixels x y row ++ pixels x (y + 1) rest

/-- Memory with pixels of the frame inverted one after the other, and whether one of them was
lit before its turn, or `collision` held already. -/
def flipAll (collision : Bool) (m : Memory) : List Nat → Memory × Bool
  | [] => (m, collision)
  | i :: rest => flipAll (collision || m.pixel i) (m.flipPixel i) rest

/-- Memory with a sprite drawn at a position, and whether a lit pixel went dark. -/
def draw (m : Memory) (x y : Nat) (rows : List UInt8) : Memory × Bool :=
  flipAll false m (pixels x y rows)

end Chip8.Sprite
