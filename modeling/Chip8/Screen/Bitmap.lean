import Chip8.Packed

/-!
# Bitmaps

Packed pixels together with a resolution are a bitmap.  Its pixels have
coordinates, `x` to the right and `y` upwards, with the top left pixel at the
origin; so `y` is never positive.  A bit plane is the list of all coordinates
at which the pixel has a given value, from the last pixel to the first.

A plane is only there if the bytes cover all pixels.

A size may be any number here.  Displays reckon in words of 64 bits, which comes
to the same for sizes whose product is such a word.

## Main results

* `Resolution.planeIndices_eq_filter`: the pixels of a plane are those whose bit
  has its value
-/

namespace Chip8

/-- The size of a bitmap. -/
structure Resolution where
  /-- The pixels of a row. -/
  width : Nat
  /-- The number of rows. -/
  height : Nat
  /-- How many bits a pixel has. -/
  bitsPerPixel : Nat := 1
  deriving DecidableEq, Repr

namespace Resolution

/-- How many pixels there are. -/
def pixelCount (r : Resolution) : Nat :=
  r.width * r.height

/-- How many whole bytes the pixels fill. -/
def byteCount (r : Resolution) : Nat :=
  r.width * r.height * r.bitsPerPixel / 8

/-- Pixels of a single bit are eight to a byte. -/
theorem byteCount_of_bitsPerPixel {r : Resolution} (h : r.bitsPerPixel = 1) :
    r.byteCount = r.pixelCount / 8 := by
  rw [byteCount, h, Nat.mul_one, pixelCount]

/-- The lowest and the highest `x`. -/
def xBounds (r : Resolution) : Int × Int :=
  (0, r.width - 1)

/-- The lowest and the highest `y`. -/
def yBounds (r : Resolution) : Int × Int :=
  (-((r.height : Int) - 1), 0)

/-- The coordinates of a pixel; pixels are counted row by row. -/
def point (r : Resolution) (i : Nat) : Int × Int :=
  (((i % r.width : Nat) : Int), -((i / r.width : Nat) : Int))

/-- The pixels that have a given value, in ascending order. -/
def planeIndices (r : Resolution) (data : List UInt8) (value : Nat) : List Nat :=
  let bytes := data.toArray
  (List.range r.pixelCount).filter fun i =>
    (Packed.bit (bytes.getD (i / 8) 0) (i % 8)).toNat = value

theorem planeIndices_eq_filter (r : Resolution) (data : List UInt8) (value : Nat) :
    r.planeIndices data value =
      (List.range r.pixelCount).filter fun i => (Packed.bitAt data i).toNat = value := by
  simp [planeIndices, Packed.bitAt, List.getD_eq_getElem?_getD]

/-- The coordinates of the pixels that have a given value, from the last pixel to the first, if
the bytes cover all pixels. -/
def plane? (r : Resolution) (data : List UInt8) (value : Nat) : Option (List (Int × Int)) :=
  if r.pixelCount ≤ 8 * data.length then
    some ((r.planeIndices data value).reverse.map r.point)
  else none

end Resolution

end Chip8
