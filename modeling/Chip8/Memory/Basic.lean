import Chip8.Fault
import Chip8.Packed
import Chip8.Instruction.Word

/-!
# Memory

Four kilobytes of bytes, in regions:

    0x000-0x04F   the font, sixteen glyphs of five bytes
    0x050-0x1FF   not used
    0x200-0xFFF   the program
    0xF00-0xFFF   the frame, shared with the end of the program

Calls are not kept here.  A range of addresses is within bounds if its end is
at most `Memory.size`; ends are natural numbers and do not wrap.

The one view of memory is `byteAt`.  Every way of writing comes down to
`overlay`, and `byteAt_overlay` says what that does: the bytes written are
found where they were put, and all others stay.

## Main definitions

* `Memory.byteAt`, `Memory.slice`: looking at memory
* `Memory.overlay`: putting consecutive bytes into memory
* `Memory.read`, `Memory.write`, `Memory.fill`, `Memory.word`: the same for
  addresses of the machine, refused if the range leaves memory
* `Memory.frame`, `Memory.clearFrame`, `Memory.overlayFrame?`: the frame
* `Memory.glyphAddress`: where the glyph of a digit lies

## Main results

* `Memory.byteAt_overlay`: what writing does
* `Memory.pixel_flipPixel`: what flipping a pixel does
-/

namespace Chip8

/-- The addressable memory of the machine. -/
structure Memory where
  /-- All bytes from address zero. -/
  bytes : Vector UInt8 4096
  deriving DecidableEq

namespace Memory

/-- How many bytes there are. -/
def size : Nat := 4096

/-- Where programs start. -/
def programStart : Nat := 0x200

/-- The largest program that fits between `programStart` and the end of memory. -/
def maxImageSize : Nat := size - programStart

/-- Where the font starts. -/
def fontStart : Nat := 0x000

/-- How many bytes a glyph of the font has. -/
def glyphSize : Nat := 5

/-- Where the frame starts. -/
def frameStart : Nat := 0xF00

/-- How many bytes the frame has. -/
def frameSize : Nat := 256

/-! ## Looking and writing -/

/-- The byte at an address, zero beyond the end. -/
def byteAt (m : Memory) (a : Nat) : UInt8 :=
  if h : a < 4096 then m.bytes[a] else 0

/-- Memory with one byte replaced; beyond the end nothing is. -/
def setByte (m : Memory) (a : Nat) (b : UInt8) : Memory :=
  ⟨m.bytes.setIfInBounds a b⟩

/-- Memory with consecutive bytes put at an address. -/
def overlay (m : Memory) (a : Nat) : List UInt8 → Memory
  | [] => m
  | b :: r => (m.setByte a b).overlay (a + 1) r

/-- The `len` bytes at an address. -/
def slice (m : Memory) (a len : Nat) : List UInt8 :=
  (List.range len).map fun k => m.byteAt (a + k)

/-! ## Accesses within bounds -/

/-- The `len` bytes at an address, if they lie within memory. -/
def read (m : Memory) (addr : UInt16) (len : Nat) : Except Fault (List UInt8) :=
  if addr.toNat + len ≤ size then .ok (m.slice addr.toNat len)
  else .error (.addressOutOfBounds addr len)

/-- Memory with bytes written at an address, if they end within memory. -/
def write (m : Memory) (addr : UInt16) (data : List UInt8) : Except Fault Memory :=
  if addr.toNat + data.length ≤ size then .ok (m.overlay addr.toNat data)
  else .error (.addressOutOfBounds addr data.length)

/-- Memory with `len` bytes at an address set to one value, if they lie within memory. -/
def fill (m : Memory) (addr : UInt16) (len : Nat) (value : UInt8) : Except Fault Memory :=
  if addr.toNat + len ≤ size then .ok (m.overlay addr.toNat (List.replicate len value))
  else .error (.addressOutOfBounds addr len)

/-- The word at an address, its first byte being the higher. -/
def word (m : Memory) (addr : UInt16) : Except Fault Word :=
  if addr.toNat + 2 ≤ size then
    .ok (Word.ofBytes (m.byteAt addr.toNat) (m.byteAt (addr.toNat + 1)))
  else .error (.addressOutOfBounds addr 2)

/-- The byte at an address of the machine. -/
def byte (m : Memory) (addr : UInt16) : Except Fault UInt8 :=
  if addr.toNat + 1 ≤ size then .ok (m.byteAt addr.toNat)
  else .error (.addressOutOfBounds addr 1)

/-! ## The font -/

/-- The font: five rows for each of the digits from `0` to `F`. -/
def font : List UInt8 :=
  [0xF0, 0x90, 0x90, 0x90, 0xF0,
   0x20, 0x60, 0x20, 0x20, 0x70,
   0xF0, 0x10, 0xF0, 0x80, 0xF0,
   0xF0, 0x10, 0xF0, 0x10, 0xF0,
   0x90, 0x90, 0xF0, 0x10, 0x10,
   0xF0, 0x80, 0xF0, 0x10, 0xF0,
   0xF0, 0x80, 0xF0, 0x90, 0xF0,
   0xF0, 0x10, 0x20, 0x40, 0x40,
   0xF0, 0x90, 0xF0, 0x90, 0xF0,
   0xF0, 0x90, 0xF0, 0x10, 0xF0,
   0xF0, 0x90, 0xF0, 0x90, 0x90,
   0xE0, 0x90, 0xE0, 0x90, 0xE0,
   0xF0, 0x80, 0x80, 0x80, 0xF0,
   0xE0, 0x90, 0x90, 0x90, 0xE0,
   0xF0, 0x80, 0xF0, 0x80, 0xF0,
   0xF0, 0x80, 0xF0, 0x80, 0x80]

/-- Where the glyph for the low nibble of a number lies. -/
def glyphAddress (digit : UInt8) : UInt16 :=
  UInt16.ofNat (fontStart + digit.toNat % 16 * glyphSize)

/-- Memory in which every byte is zero. -/
def zero : Memory :=
  ⟨Vector.replicate 4096 0⟩

/-- Memory as a machine starts with it: the font, and zeros. -/
def fresh : Memory :=
  zero.overlay fontStart font

/-! ## The frame -/

/-- The bytes of the frame, row by row. -/
def frame (m : Memory) : List UInt8 :=
  m.slice frameStart frameSize

/-- Memory with all pixels of the frame off. -/
def clearFrame (m : Memory) : Memory :=
  m.overlay frameStart (List.replicate frameSize 0)

/-- Memory with bytes put into the frame from an offset on, if they end within it. -/
def overlayFrame? (m : Memory) (offset : Nat) (data : List UInt8) : Option Memory :=
  if offset + data.length ≤ frameSize then some (m.overlay (frameStart + offset) data) else none

/-- Whether a pixel of the frame is lit; pixels are counted row by row. -/
def pixel (m : Memory) (i : Nat) : Bool :=
  Packed.bit (m.byteAt (frameStart + i / 8)) (i % 8)

/-- Memory with one pixel of the frame inverted. -/
def flipPixel (m : Memory) (i : Nat) : Memory :=
  m.setByte (frameStart + i / 8) (Packed.flip (m.byteAt (frameStart + i / 8)) (i % 8))

/-! ## What writing does to the view -/

theorem ext_byteAt {m m' : Memory} (h : ∀ a, a < size → m.byteAt a = m'.byteAt a) : m = m' := by
  obtain ⟨v⟩ := m
  obtain ⟨v'⟩ := m'
  congr 1
  apply Vector.ext
  intro a ha
  have hb := h a ha
  simpa only [byteAt, ha, dite_true] using hb

theorem byteAt_of_size_le (m : Memory) {a : Nat} (h : size ≤ a) : m.byteAt a = 0 := by
  have h' : ¬ a < 4096 := Nat.not_lt.mpr h
  simp [byteAt, h']

theorem byteAt_setByte (m : Memory) (a c : Nat) (b : UInt8) :
    (m.setByte a b).byteAt c = if c = a ∧ a < size then b else m.byteAt c := by
  unfold byteAt setByte size
  by_cases hc : c < 4096
  · by_cases hca : c = a
    · subst hca
      simp [hc]
    · simp [hc, hca, Vector.getElem_setIfInBounds_ne, Ne.symm hca]
  · have hca : ¬ (c = a ∧ a < 4096) := by omega
    simp [hc, hca]

/-- The bytes written are found where they were put, and all others stay. -/
theorem byteAt_overlay (m : Memory) (a c : Nat) (data : List UInt8)
    (h : a + data.length ≤ size) :
    (m.overlay a data).byteAt c =
      if a ≤ c ∧ c < a + data.length then data.getD (c - a) 0 else m.byteAt c := by
  induction data generalizing m a with
  | nil =>
    have hc : ¬ (a ≤ c ∧ c < a + ([] : List UInt8).length) := by
      simp only [List.length_nil]
      omega
    rw [if_neg hc, overlay]
  | cons b r ih =>
    simp only [List.length_cons] at h
    rw [overlay, ih _ _ (by omega), byteAt_setByte]
    simp only [List.length_cons]
    by_cases hca : c = a
    · subst hca
      have h1 : ¬ (c + 1 ≤ c ∧ c < c + 1 + r.length) := by omega
      have h2 : c ≤ c ∧ c < c + (r.length + 1) := by omega
      have h3 : c < size := by omega
      rw [if_neg h1, if_pos ⟨rfl, h3⟩, if_pos h2]
      simp
    · by_cases hin : a ≤ c ∧ c < a + (r.length + 1)
      · have h1 : a + 1 ≤ c ∧ c < a + 1 + r.length := by omega
        obtain ⟨j, rfl⟩ : ∃ j, c = a + 1 + j := ⟨c - (a + 1), by omega⟩
        have h2 : a + 1 + j - a = j + 1 := by omega
        have h3 : a + 1 + j - (a + 1) = j := by omega
        simp only [h1, hin, and_self, if_true, h2, h3, List.getD_cons_succ]
      · have h1 : ¬ (a + 1 ≤ c ∧ c < a + 1 + r.length) := by omega
        simp only [h1, hin, hca, false_and, if_false]

@[simp] theorem length_slice (m : Memory) (a len : Nat) : (m.slice a len).length = len := by
  simp [slice]

theorem getD_slice (m : Memory) (a : Nat) {len k : Nat} (h : k < len) :
    (m.slice a len).getD k 0 = m.byteAt (a + k) := by
  simp [slice, h]

/-- Flipping a pixel inverts it and leaves all others alone. -/
theorem pixel_flipPixel (m : Memory) {i j : Nat} (hi : i < 8 * frameSize) :
    (m.flipPixel i).pixel j = (m.pixel j ^^ decide (j = i)) := by
  have hsize : frameStart + i / 8 < size := by
    simp only [frameStart, frameSize, size] at hi ⊢
    omega
  unfold pixel flipPixel
  rw [byteAt_setByte]
  by_cases hbyte : j / 8 = i / 8
  · have hmod : j = i ↔ j % 8 = i % 8 := by omega
    rw [if_pos ⟨by rw [hbyte], hsize⟩, hbyte,
      Packed.bit_flip _ (Nat.mod_lt _ (by decide)) (Nat.mod_lt _ (by decide))]
    congr 1
    exact decide_eq_decide.mpr hmod.symm
  · have hne : ¬ frameStart + j / 8 = frameStart + i / 8 := by omega
    have hji : j ≠ i := fun h => hbyte (by rw [h])
    rw [if_neg fun h => hne h.1]
    simp [hji]

/-- Flipping a pixel changes no byte outside the frame. -/
theorem byteAt_flipPixel_of_lt (m : Memory) (i : Nat) {a : Nat} (h : a < frameStart) :
    (m.flipPixel i).byteAt a = m.byteAt a := by
  have hne : ¬ (a = frameStart + i / 8 ∧ frameStart + i / 8 < size) := fun hc => by omega
  rw [flipPixel, byteAt_setByte, if_neg hne]

end Memory

end Chip8
