import Chip8.Proofs.Guarded.Numbers

/-!
# Memory does not trap

Ranges of memory are looked at before they are used, so a range of few bytes is
within bounds or a fault.  A sprite of few rows with its corner at a pair of
bytes covers pixels of the frame only, and drawn column by column it inverts
one after the other.

## Main results

* `read_eq`, `write_eq`, `word_eq`, `loadImage_eq`: ranges are bytes or faults
* `drawRows_eq`: column by column, a sprite inverts the pixels that it covers
-/

namespace Chip8.Guarded

/-! ## Ranges -/

/-- A range of few bytes is within bounds or a fault, and never a trap. -/
theorem span_eq (addr : UInt16) {len : Nat} (h : len ≤ Memory.size) :
    span addr len = .ok (if addr.toNat + len ≤ Memory.size then .ok ()
      else .error (.addressOutOfBounds addr len)) := by
  have haddr := addr.toNat_lt
  have hcount : addr.toNat + len < UInt64.size := by
    have h' : len ≤ 4096 := h
    show addr.toNat + len < 18446744073709551616
    omega
  rw [span, count_of_lt hcount, ok_bind]
  by_cases hin : addr.toNat + len ≤ Memory.size
  · rw [if_pos hin, if_pos hin, range_of_le hin]
    rfl
  · rw [if_neg hin, if_neg hin]
    rfl

theorem read_eq (m : Memory) (addr : UInt16) {len : Nat} (h : len ≤ Memory.size) :
    read m addr len = .ok (m.read addr len) := by
  rw [read, span_eq addr h, ok_bind, Memory.read]
  by_cases hin : addr.toNat + len ≤ Memory.size
  · simp only [if_pos hin, pure_eq_ok]
  · simp only [if_neg hin, pure_eq_ok]

theorem write_eq (m : Memory) (addr : UInt16) {data : List UInt8} (h : data.length ≤ Memory.size) :
    write m addr data = .ok (m.write addr data) := by
  rw [write, span_eq addr h, ok_bind, Memory.write]
  by_cases hin : addr.toNat + data.length ≤ Memory.size
  · simp only [if_pos hin, pure_eq_ok]
  · simp only [if_neg hin, pure_eq_ok]

theorem word_eq (m : Memory) (addr : UInt16) : word m addr = .ok (m.word addr) := by
  rw [word, read_eq m addr (by decide), ok_bind, Memory.read, Memory.word]
  by_cases hin : addr.toNat + 2 ≤ Memory.size
  · simp only [if_pos hin]
    have hlen : (m.slice addr.toNat 2).length = 2 := Memory.length_slice ..
    rw [index_of_lt (hlen ▸ Nat.zero_lt_two), ok_bind, index_of_lt (hlen ▸ Nat.one_lt_two),
      ok_bind, shiftLeft16_of_lt _ (by decide), ok_bind, Memory.getD_slice m _ Nat.zero_lt_two,
      Memory.getD_slice m _ Nat.one_lt_two, shiftLeft_or_eq_ofBytes]
    rfl
  · simp only [if_neg hin, pure_eq_ok]

theorem clearFrame_eq (m : Memory) : clearFrame m = .ok m.clearFrame := by
  rw [clearFrame, range_of_le (by decide)]
  rfl

theorem glyphAddress_eq (digit : UInt8) : glyphAddress digit = .ok (Memory.glyphAddress digit) := by
  have hnibble : (digit &&& 0x0F).toUInt16.toNat = digit.toNat % 16 := by
    rw [UInt8.toNat_toUInt16, UInt8.toNat_and]
    exact Nat.and_two_pow_sub_one_eq_mod _ 4
  have hlt : digit.toNat % 16 < 16 := Nat.mod_lt _ (by decide)
  have hmul : (digit &&& 0x0F).toUInt16.toNat * (UInt16.ofNat Memory.glyphSize).toNat <
      UInt16.size := by
    rw [hnibble]
    show digit.toNat % 16 * 5 < 65536
    omega
  have hproduct : ((digit &&& 0x0F).toUInt16 * UInt16.ofNat Memory.glyphSize).toNat =
      digit.toNat % 16 * 5 := by
    rw [UInt16.toNat_mul, hnibble]
    show digit.toNat % 16 * 5 % 65536 = digit.toNat % 16 * 5
    omega
  rw [glyphAddress, mul16_of_lt hmul, ok_bind, add16_of_lt]
  · refine congrArg Except.ok (UInt16.toNat_inj.mp ?_)
    rw [UInt16.toNat_add, hproduct, Memory.glyphAddress]
    rfl
  · rw [hproduct]
    show 0 + digit.toNat % 16 * 5 < 65536
    omega

theorem loadImage_eq (m : Memory) (image : Image) : loadImage m image = .ok (m.load image) := by
  unfold loadImage Memory.load
  cases image.failure with
  | some reason => rfl
  | none =>
    by_cases h : image.bytes.length ≤ Memory.maxImageSize
    · have hrange : Memory.programStart + image.bytes.length ≤ Memory.size := by
        have h' : image.bytes.length ≤ 3584 := h
        show 0x200 + image.bytes.length ≤ 4096
        omega
      simp only [if_pos h, range_of_le hrange, ok_bind, pure_eq_ok]
    · simp only [if_neg h, pure_eq_ok]

/-! ## Sprites -/

theorem flipAll_append (collision : Bool) (m : Memory) (first rest : List Nat) :
    Sprite.flipAll collision m (first ++ rest) =
      Sprite.flipAll (Sprite.flipAll collision m first).2 (Sprite.flipAll collision m first).1
        rest := by
  induction first generalizing collision m with
  | nil => rfl
  | cons i first ih => exact ih _ _

/-- A pixel that was inverted is dark exactly if it was lit before. -/
theorem flip_and_mask (b : UInt8) {k : Nat} (hk : k < 8) :
    ((b ^^^ Packed.mask k) &&& Packed.mask k == 0) = Packed.bit b k := by
  have hflip := Packed.bit_flip b hk hk
  rw [decide_eq_true rfl, Bool.xor_true] at hflip
  rw [Bool.eq_iff_iff, beq_iff_eq, bit_eq_false_iff]
  show Packed.bit (Packed.flip b k) k = false ↔ _
  rw [hflip, Bool.not_eq_false']

section Drawing

variable {x y : Nat}

/-- A column of a sprite inverts the pixel that it covers if it is set there. -/
theorem drawPixel_eq (hx : x < UInt8.size) (hy : y < UInt8.size) {r c : Nat} (hr : r < 16)
    (hc : c < Sprite.width) (row : UInt8) (s : Memory × Bool) :
    drawPixel x y r row s c = .ok (if Packed.bit row c = true then
      Sprite.flipAll s.2 s.1 [Sprite.pixelIndex (x + c) (y + r)] else s) := by
  rw [drawPixel, shiftRight8_eq_mask hc, ok_bind]
  by_cases hset : Packed.bit row c = true
  · have hne : ¬ row &&& Packed.mask c = 0 := fun h => by
      rw [bit_eq_false_iff, hset] at h
      exact nomatch h
    have hx' : x < 256 := hx
    have hy' : y < 256 := hy
    have hc' : c < 8 := hc
    have hpx : x + c < UInt64.size := by
      show x + c < 18446744073709551616
      omega
    have hpy : y + r < UInt64.size := by
      show y + r < 18446744073709551616
      omega
    -- Both coordinates wrap around, so the pixel is one of the frame.
    have hoffset : Sprite.pixelIndex (x + c) (y + r) < 2048 := by
      show (y + r) % 32 * 64 + (x + c) % 64 < 2048
      omega
    have hcount : Sprite.pixelIndex (x + c) (y + r) < UInt64.size :=
      Nat.lt_trans hoffset (by decide)
    have hplace : Sprite.pixelIndex (x + c) (y + r) / 8 < Memory.frameSize := by
      show _ < 256
      omega
    rw [if_neg hne, count_of_lt hpx, ok_bind, count_of_lt hpy, ok_bind]
    change (count (Sprite.pixelIndex (x + c) (y + r)) >>= _) = _
    rw [count_of_lt hcount, ok_bind, shiftRight8_eq_mask (Nat.mod_lt _ (by decide)), ok_bind,
      index_of_lt hplace, ok_bind, if_pos hset]
    -- The pixel was lit before if it is dark now.
    refine congrArg Except.ok (Prod.ext rfl ?_)
    exact congrArg (s.2 || ·) (flip_and_mask _ (Nat.mod_lt _ (by decide)))
  · have heq : row &&& Packed.mask c = 0 :=
      (bit_eq_false_iff row c).mpr (Bool.eq_false_iff.mpr hset)
    rw [if_pos heq, if_neg hset]
    rfl

/-- Columns one after the other invert the pixels that they cover where they are set. -/
theorem drawColumns_eq (hx : x < UInt8.size) (hy : y < UInt8.size) {r : Nat} (hr : r < 16)
    (row : UInt8) {columns : List Nat} (hcolumns : ∀ c ∈ columns, c < Sprite.width)
    (s : Memory × Bool) :
    columns.foldlM (drawPixel x y r row) s = .ok (Sprite.flipAll s.2 s.1
      ((columns.filter (Packed.bit row)).map fun c => Sprite.pixelIndex (x + c) (y + r))) := by
  induction columns generalizing s with
  | nil => rfl
  | cons c rest ih =>
    have hc := hcolumns c List.mem_cons_self
    have hrest : ∀ c ∈ rest, c < Sprite.width := fun d hd =>
      hcolumns d (List.mem_cons_of_mem c hd)
    rw [List.foldlM_cons, drawPixel_eq hx hy hr hc row s, ok_bind, ih hrest]
    by_cases hset : Packed.bit row c = true
    · rw [if_pos hset, List.filter_cons_of_pos hset]
      rfl
    · rw [if_neg hset, List.filter_cons_of_neg hset]

theorem drawRow_eq (hx : x < UInt8.size) (hy : y < UInt8.size) {r : Nat} (hr : r < 16)
    (row : UInt8) (s : Memory × Bool) :
    drawRow x y r row s = .ok (Sprite.flipAll s.2 s.1 (Sprite.rowPixels x (y + r) row)) :=
  drawColumns_eq hx hy hr row (fun _ hc => List.mem_range.mp hc) s

/-- **Row by row and column by column, a sprite inverts the pixels that it covers.** -/
theorem drawRows_eq (hx : x < UInt8.size) (hy : y < UInt8.size) {r : Nat} {rows : List UInt8}
    (hr : r + rows.length ≤ 16) (s : Memory × Bool) :
    drawRows x y r s rows = .ok (Sprite.flipAll s.2 s.1 (Sprite.pixels x (y + r) rows)) := by
  induction rows generalizing r s with
  | nil => rfl
  | cons row rest ih =>
    rw [List.length_cons] at hr
    have hrow : r < 16 := by omega
    have hrest : r + 1 + rest.length ≤ 16 := by omega
    rw [drawRows, drawRow_eq hx hy hrow row s, ok_bind, ih hrest, Sprite.pixels, flipAll_append,
      Nat.add_assoc]

end Drawing

end Chip8.Guarded
