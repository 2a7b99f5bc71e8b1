import Chip8.Proofs.Screens

/-!
# Walking over the planes of a frame

The pixels of a plane are found by walking over the frame from the last pixel to
the first, reading the byte of each.  A walk gets through exactly if the bytes
cover all pixels; and then it finds the plane.

A terminal takes a frame by its length alone: it asks for as many bytes as the
pixels fill, not counting a last byte that they fill in part.  So if the pixels
do not fill whole bytes, every frame that the terminal takes lacks the byte of
the last pixels, and both walks over it break off.

Sizes here are numbers without bounds, those that a terminal reckons with are
words: 64 bits hold what is counted, 16 bits the columns and rows of a terminal.
What is said of terminals holds of those with at least one pixel, and with no
more than can be counted.

## Main definitions

* `Resolution.walk`: the walk over a plane
* `Resolution.Covers`: there is a byte for every pixel
* `Resolution.Counted`: words of 64 bits count what there is to count
* `Resolution.FitsTerminal`: there are terminals large enough for the box
* `Terminal.LengthChecked`: what asking for the length is good for

## Main results

* `Resolution.walk_of_le`, `Resolution.walk_of_lt`: where a walk leads
* `Resolution.plane?_eq_walk`: planes are found by walking
* `Resolution.counted_of_lt`: words count as many pixels as they can hold
* `Terminal.lengthChecked`: asking for the length is enough exactly if the pixels
  fill whole bytes
-/

namespace Chip8

namespace Resolution

/-- The pixels below `n` that have a value, from the last to the first, if the byte of each can be
read. -/
def walk (data : List UInt8) (value : Nat) : Nat → Option (List Nat)
  | 0 => some []
  | i + 1 =>
    match data[i / 8]? with
    | none => none
    | some b =>
      (walk data value i).map fun rest =>
        if (Packed.bit b (i % 8)).toNat = value then i :: rest else rest

/-- There is a byte for every pixel. -/
def Covers (r : Resolution) (data : List UInt8) : Prop :=
  ∀ i < r.pixelCount, i / 8 < data.length

theorem covers_iff (r : Resolution) (data : List UInt8) :
    r.Covers data ↔ r.pixelCount ≤ 8 * data.length := by
  constructor
  · intro h
    by_cases hpos : r.pixelCount = 0
    · omega
    · -- The last pixel needs the last byte.
      have hlast := h (r.pixelCount - 1) (by omega)
      omega
  · intro h i hi
    omega

/-- A walk gets through as long as there are bytes. -/
theorem walk_of_le (data : List UInt8) (value : Nat) {n : Nat} (h : n ≤ 8 * data.length) :
    walk data value n =
      some ((List.range n).filter fun i => (Packed.bitAt data i).toNat = value).reverse := by
  induction n with
  | zero => rfl
  | succ i ih =>
    have hi : i / 8 < data.length := by omega
    have hbit : Packed.bitAt data i = Packed.bit data[i / 8] (i % 8) := by
      rw [Packed.bitAt, List.getD_eq_getElem?_getD, List.getElem?_eq_getElem hi, Option.getD_some]
    rw [walk, List.getElem?_eq_getElem hi, ih (by omega), List.range_succ, List.filter_append,
      List.reverse_append]
    by_cases hvalue : (Packed.bit data[i / 8] (i % 8)).toNat = value
    · simp [hbit, hvalue]
    · simp [hbit, hvalue]

/-- A walk that starts past the end of the bytes breaks off at once. -/
theorem walk_of_lt (data : List UInt8) (value : Nat) {n : Nat} (h : 8 * data.length < n) :
    walk data value n = none := by
  obtain ⟨i, rfl⟩ : ∃ i, n = i + 1 := ⟨n - 1, by omega⟩
  rw [walk, List.getElem?_eq_none (by omega)]

/-- **Planes are found by walking.** -/
theorem plane?_eq_walk (r : Resolution) (data : List UInt8) (value : Nat) :
    r.plane? data value = (walk data value r.pixelCount).map (List.map r.point) := by
  unfold plane?
  by_cases h : r.pixelCount ≤ 8 * data.length
  · rw [if_pos h, walk_of_le data value h, planeIndices_eq_filter]
    rfl
  · rw [if_neg h, walk_of_lt data value (Nat.lt_of_not_le h)]
    rfl

theorem walk_isSome_iff (r : Resolution) (data : List UInt8) (value : Nat) :
    (walk data value r.pixelCount).isSome = true ↔ r.Covers data := by
  rw [covers_iff]
  by_cases h : r.pixelCount ≤ 8 * data.length
  · rw [walk_of_le data value h]
    exact iff_of_true rfl h
  · rw [walk_of_lt data value (Nat.lt_of_not_le h)]
    exact iff_of_false Bool.false_ne_true h

/-- Frames of the length that is asked for cover the pixels exactly if these fill whole bytes. -/
theorem covers_iff_dvd {r : Resolution} (hbits : r.bitsPerPixel = 1) {data : List UInt8}
    (hlen : data.length = r.byteCount) : r.Covers data ↔ 8 ∣ r.pixelCount := by
  rw [covers_iff, hlen, byteCount_of_bitsPerPixel hbits]
  omega

/-! ## Counting in words -/

/-- Reckoning in words of 64 bits gives the numbers of a bitmap: no product wraps around, and one
can be taken from each side. -/
structure Counted (r : Resolution) : Prop where
  pixelCount_eq : (UInt64.ofNat r.width * UInt64.ofNat r.height).toNat = r.pixelCount
  byteCount_eq :
    (UInt64.ofNat r.width * UInt64.ofNat r.height * UInt64.ofNat r.bitsPerPixel / 8).toNat =
      r.byteCount
  xBounds_eq : r.xBounds = (0, ((UInt64.ofNat r.width - 1).toNat : Int))
  yBounds_eq : r.yBounds = (-((UInt64.ofNat r.height - 1).toNat : Int), 0)

theorem toNat_ofNat_mul {m n : Nat} (h : m * n < UInt64.size) :
    (UInt64.ofNat m * UInt64.ofNat n).toNat = m * n := by
  -- Whether the factors themselves wrap around makes no difference to the product.
  rw [UInt64.toNat_mul, UInt64.toNat_ofNat', UInt64.toNat_ofNat', ← Nat.mul_mod]
  exact Nat.mod_eq_of_lt h

theorem toNat_ofNat_sub_one {n : Nat} (hpos : 0 < n) (h : n < UInt64.size) :
    ((UInt64.ofNat n - 1).toNat : Int) = n - 1 := by
  have hn : (UInt64.ofNat n).toNat = n := UInt64.toNat_ofNat_of_lt h
  have hle : 1 ≤ UInt64.ofNat n := by
    rw [UInt64.le_iff_toNat_le, hn]
    exact hpos
  rw [UInt64.toNat_sub_of_le _ _ hle, hn]
  exact Int.ofNat_sub hpos

/-- **Words count** as many pixels as they can hold, if there is a pixel. -/
theorem counted_of_lt {width height : Nat} (hw : 0 < width) (hh : 0 < height)
    (hcount : width * height < UInt64.size) : Counted { width, height } where
  pixelCount_eq := toNat_ofNat_mul hcount
  byteCount_eq := by
    rw [byteCount_of_bitsPerPixel rfl]
    show (UInt64.ofNat width * UInt64.ofNat height * 1 / 8).toNat = width * height / 8
    rw [UInt64.mul_one, UInt64.toNat_div, toNat_ofNat_mul hcount]
    rfl
  -- A single side is a word as well, since the product is no smaller.
  xBounds_eq := by
    have hwidth : width ≤ width * height := Nat.le_mul_of_pos_right width hh
    rw [xBounds, toNat_ofNat_sub_one hw (Nat.lt_of_le_of_lt hwidth hcount)]
  yBounds_eq := by
    have hheight : height ≤ width * height := Nat.le_mul_of_pos_left height hw
    rw [yBounds, toNat_ofNat_sub_one hh (Nat.lt_of_le_of_lt hheight hcount)]

/-- There are terminals with a box around so many pixels: their columns and rows are numbers of 16
bits. -/
def FitsTerminal (r : Resolution) : Prop :=
  r.width + 2 < UInt16.size ∧ r.height + 2 < UInt16.size

theorem toNat_two_add_ofNat {n : Nat} (h : n + 2 < UInt16.size) :
    (2 + UInt16.ofNat n).toNat = n + 2 := by
  have hn : (UInt16.ofNat n).toNat = n :=
    UInt16.toNat_ofNat_of_lt (Nat.lt_of_le_of_lt (Nat.le_add_right n 2) h)
  rw [UInt16.toNat_add, hn, Nat.add_comm]
  exact Nat.mod_eq_of_lt h

end Resolution

namespace Terminal

/-- A frame is refused for its length. -/
def Refuses (t : Terminal) (data : List UInt8) (tone : Bool) : Prop :=
  ∃ needed got, (t.draw data tone).1 = some (.wrongSize needed got)

/-- Frames are refused for their length exactly if it is not the one that is asked for. -/
theorem refuses_iff (t : Terminal) (data : List UInt8) (tone : Bool) :
    t.Refuses data tone ↔ data.length ≠ t.resolution.byteCount := by
  unfold Refuses draw
  by_cases h : data.length ≠ t.resolution.byteCount
  · rw [if_pos h]
    exact iff_of_true ⟨_, _, rfl⟩ h
  · rw [if_neg h]
    refine iff_of_false ?_ h
    rintro ⟨needed, got, herror⟩
    split at herror
    · cases herror
    · cases herror

/-- A frame that does not cover the pixels is not shown, though its length is right. -/
theorem draw_of_not_covers {t : Terminal} {data : List UInt8}
    (hlen : data.length = t.resolution.byteCount) (h : ¬ t.resolution.Covers data) (tone : Bool) :
    t.draw data tone = (some (.uncovered t.resolution.pixelCount data.length), t) := by
  have hplane : t.resolution.plane? data 0 = none := by
    rw [Resolution.covers_iff] at h
    exact if_neg h
  rw [draw, if_neg (not_not_intro hlen), hplane]

section Length

variable {t : Terminal} (hbits : t.resolution.bitsPerPixel = 1)

include hbits

theorem refuses_or_covers_iff (data : List UInt8) (tone : Bool) :
    t.Refuses data tone ∨ t.resolution.Covers data ↔
      data.length ≠ t.resolution.byteCount ∨ 8 ∣ t.resolution.pixelCount := by
  rw [refuses_iff]
  by_cases hlen : data.length = t.resolution.byteCount
  · rw [Resolution.covers_iff_dvd hbits hlen]
  · exact iff_of_true (.inl hlen) (.inl hlen)

theorem forall_refuses_or_covers_iff :
    (∀ data tone, t.Refuses data tone ∨ t.resolution.Covers data) ↔
      8 ∣ t.resolution.pixelCount := by
  simp only [refuses_or_covers_iff hbits]
  constructor
  · intro h
    -- Any frame of the length that is asked for will do.
    rcases h (List.replicate t.resolution.byteCount 0) false with hne | hdvd
    · exact absurd List.length_replicate hne
    · exact hdvd
  · intro hdvd data tone
    exact .inr hdvd

/-- A frame that is taken is shown if the pixels fill whole bytes. -/
theorem fst_draw_of_dvd (hdvd : 8 ∣ t.resolution.pixelCount) {data : List UInt8}
    (hlen : data.length = t.resolution.byteCount) (tone : Bool) :
    (t.draw data tone).1 = none := by
  obtain ⟨dark, lit, -, -, hdraw⟩ := draw_of_eq ⟨hbits, hdvd⟩ hlen tone
  exact congrArg Prod.fst hdraw

end Length

/-- What it is good for that a terminal asks for the length of a frame. -/
structure LengthChecked (t : Terminal) : Prop where
  /-- What is counted is held by words. -/
  counted : t.resolution.Counted
  /-- Planes are found by walking, -/
  plane?_eq : ∀ data value, t.resolution.plane? data value =
    (Resolution.walk data value t.resolution.pixelCount).map (List.map t.resolution.point)
  /-- and a walk gets through exactly if there is a byte for every pixel. -/
  walk_isSome_iff : ∀ data value,
    (Resolution.walk data value t.resolution.pixelCount).isSome = true ↔ t.resolution.Covers data
  /-- The bytes that are asked for have a bit for every pixel exactly if the pixels fill whole
  bytes. -/
  enough_iff : t.resolution.pixelCount ≤ t.resolution.byteCount * 8 ↔ 8 ∣ t.resolution.pixelCount
  /-- A frame is refused or covers the pixels, unless it has the length that is asked for and the
  pixels do not fill whole bytes. -/
  sufficient_at_iff : ∀ data tone, t.Refuses data tone ∨ t.resolution.Covers data ↔
    data.length ≠ t.resolution.byteCount ∨ 8 ∣ t.resolution.pixelCount
  sufficient_iff : (∀ data tone, t.Refuses data tone ∨ t.resolution.Covers data) ↔
    8 ∣ t.resolution.pixelCount
  /-- If they do, every frame of that length is shown on the terminals that there are, and the sides
  of their boxes are words. -/
  shown : t.resolution.FitsTerminal → 8 ∣ t.resolution.pixelCount →
    (2 + UInt16.ofNat t.resolution.width).toNat = t.resolution.width + 2 ∧
      (2 + UInt16.ofNat t.resolution.height).toNat = t.resolution.height + 2 ∧
      ∀ data tone, data.length = t.resolution.byteCount → (t.draw data tone).1 = none
  /-- If they do not, every frame of that length lacks a byte. -/
  uncovered : ¬ 8 ∣ t.resolution.pixelCount → ∀ data tone,
    data.length = t.resolution.byteCount →
      t.draw data tone = (some (.uncovered t.resolution.pixelCount data.length), t) ∧
        ∀ value, Resolution.walk data value t.resolution.pixelCount = none

/-- **Asking for the length is enough exactly if the pixels fill whole bytes**, for terminals of
every size that words can count, whatever they show. -/
theorem lengthChecked {width height : Nat} (hw : 0 < width) (hh : 0 < height)
    (hcount : width * height < UInt64.size) (screen : List (List Cell)) :
    LengthChecked ⟨{ width, height }, screen⟩ where
  counted := Resolution.counted_of_lt hw hh hcount
  plane?_eq := Resolution.plane?_eq_walk _
  walk_isSome_iff := Resolution.walk_isSome_iff _
  enough_iff := by
    rw [Resolution.byteCount_of_bitsPerPixel rfl]
    omega
  sufficient_at_iff := refuses_or_covers_iff rfl
  sufficient_iff := forall_refuses_or_covers_iff rfl
  shown hfits hdvd := by
    obtain ⟨hcolumns, hrows⟩ := hfits
    refine ⟨Resolution.toNat_two_add_ofNat hcolumns, Resolution.toNat_two_add_ofNat hrows, ?_⟩
    intro data tone hlen
    exact fst_draw_of_dvd rfl hdvd hlen tone
  uncovered hdvd data tone hlen := by
    have hnot : ¬ Resolution.Covers { width, height } data := by
      rwa [Resolution.covers_iff_dvd rfl hlen]
    refine ⟨draw_of_not_covers hlen hnot tone, fun value => ?_⟩
    rw [Resolution.covers_iff] at hnot
    exact Resolution.walk_of_lt data value (Nat.lt_of_not_le hnot)

/-- The terminal of the machine has 64 by 32 pixels. -/
theorem lengthChecked_sixty_four_by_thirty_two :
    0 < 64 ∧ 0 < 32 ∧ 64 * 32 < UInt64.size ∧ (ofSize 64 32).resolution.FitsTerminal ∧
      8 ∣ (ofSize 64 32).resolution.pixelCount ∧ LengthChecked (ofSize 64 32) :=
  ⟨by decide, by decide, by decide, ⟨by decide, by decide⟩, by decide,
    lengthChecked (by decide) (by decide) (by decide) _⟩

/-- Fifteen pixels fill one byte and most of a second.  A frame of one byte is not refused, and does
not cover them. -/
theorem not_refuses_or_covers_three_by_five :
    ¬ ((ofSize 3 5).Refuses [0xFF] false ∨ (ofSize 3 5).resolution.Covers [0xFF]) ∧
      Resolution.walk [0xFF] 0 15 = none ∧ Resolution.walk [0xFF] 1 15 = none := by
  refine ⟨?_, by decide, by decide⟩
  rintro (hrefused | hcovers)
  · exact (refuses_iff _ _ _).mp hrefused rfl
  · rw [Resolution.covers_iff] at hcovers
    exact absurd hcovers (by decide)

end Terminal

end Chip8
