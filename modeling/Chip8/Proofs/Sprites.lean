import Chip8.Proofs.Footprint
import Mathlib.Data.List.Nodup

/-!
# Sprites, pixel by pixel

Drawing goes over the set pixels of a sprite one after the other and inverts the
pixel of the frame on which each of them falls.  A sprite has no more rows than
the frame and no more columns, so no two of them fall on the same pixel, though
the sprite may wrap around at both edges.  Hence the inversions do not meet:
what becomes of a pixel, and whether a lit one goes dark, can be told from the
memory before the first of them.

Seen from the frame, a pixel that lies some rows and columns behind the origin
of the sprite is inverted if the sprite is set at just that row and column.

## Main definitions

* `Sprite.behind`: how far a position lies behind the origin
* `Sprite.inverts`: whether a sprite inverts a pixel
* `Sprite.Erases`: a lit pixel went dark
* `Machine.Drawn`: what drawing makes of a machine

## Main results

* `Sprite.pixel_flipAll`, `Sprite.snd_flipAll`: inverting distinct pixels
* `Sprite.nodup_pixels`: no two pixels of a sprite fall on the same pixel
* `Sprite.mem_pixels_iff`: where the pixels of a sprite fall
* `Machine.drw_drawn`: what `Dxyn` does
-/

namespace Chip8

namespace Sprite

/-! ## Inverting distinct pixels -/

/-- **What becomes of a pixel** if distinct pixels are inverted. -/
theorem pixel_flipAll (collision : Bool) (m : Memory) {is : List Nat} (hnodup : is.Nodup)
    (hframe : ∀ i ∈ is, i < 8 * Memory.frameSize) (j : Nat) :
    (flipAll collision m is).1.pixel j = (m.pixel j ^^ decide (j ∈ is)) := by
  induction is generalizing collision m with
  | nil => simp [flipAll]
  | cons i is ih =>
    obtain ⟨hi, hrest⟩ := List.nodup_cons.mp hnodup
    obtain ⟨hiframe, hrestframe⟩ := List.forall_mem_cons.mp hframe
    rw [flipAll, ih _ _ hrest hrestframe, Memory.pixel_flipPixel m hiframe, Bool.xor_assoc]
    congr 1
    by_cases hji : j = i
    · subst hji
      simp [hi]
    · simp [hji]

/-- **Whether a lit pixel goes dark** if distinct pixels are inverted. -/
theorem snd_flipAll (collision : Bool) (m : Memory) {is : List Nat} (hnodup : is.Nodup)
    (hframe : ∀ i ∈ is, i < 8 * Memory.frameSize) :
    (flipAll collision m is).2 = (collision || is.any m.pixel) := by
  induction is generalizing collision m with
  | nil => simp [flipAll]
  | cons i is ih =>
    obtain ⟨hi, hrest⟩ := List.nodup_cons.mp hnodup
    obtain ⟨hiframe, hrestframe⟩ := List.forall_mem_cons.mp hframe
    -- The pixels that are still to come look as they did before this one was inverted.
    have hlater : is.any (m.flipPixel i).pixel = is.any m.pixel := by
      rw [Bool.eq_iff_iff, List.any_eq_true, List.any_eq_true]
      refine exists_congr fun j => and_congr_right fun hj => ?_
      have hji : j ≠ i := by
        rintro rfl
        exact hi hj
      rw [Memory.pixel_flipPixel m hiframe, decide_eq_false hji, Bool.xor_false]
    rw [flipAll, ih _ _ hrest hrestframe, hlater, List.any_cons, Bool.or_assoc]

/-! ## Where the pixels of a sprite fall -/

/-- How far a position lies behind an origin, around the edge. -/
def behind (size origin p : Nat) : Nat :=
  (((p : Int) - origin) % size).toNat

theorem behind_eq_iff {size origin p k : Nat} (hp : p < size) (hk : k < size) :
    behind size origin p = k ↔ (origin + k) % size = p := by
  have hpos : (0 : Int) < size := by omega
  have hp' : (p : Int) % size = p := Int.emod_eq_of_lt (by omega) (by omega)
  have hk' : (k : Int) % size = k := Int.emod_eq_of_lt (by omega) (by omega)
  have hnonneg : 0 ≤ ((p : Int) - origin) % size := Int.emod_nonneg _ (by omega)
  constructor
  · intro h
    have hbehind : ((p : Int) - origin) % size = k := by
      rw [← h, behind, Int.toNat_of_nonneg hnonneg]
    have hsum : ((origin : Int) + k) % size = p := by
      rw [← hbehind, Int.add_comm, Int.emod_add_emod, Int.sub_add_cancel, hp']
    exact_mod_cast hsum
  · rintro rfl
    have hdiff : (((origin + k) % size : Nat) - (origin : Int)) % size = k := by
      push_cast
      rw [Int.emod_sub_emod, Int.add_comm, Int.add_sub_cancel, hk']
    rw [behind, hdiff, Int.toNat_natCast]

theorem pixelIndex_eq_iff {x y px py : Nat} (hpx : px < frameWidth) :
    pixelIndex x y = py * frameWidth + px ↔ x % frameWidth = px ∧ y % frameHeight = py := by
  unfold pixelIndex frameWidth frameHeight at *
  omega

theorem pixelIndex_lt (x y : Nat) : pixelIndex x y < 8 * Memory.frameSize := by
  show y % 32 * 64 + x % 64 < 8 * 256
  omega

theorem mem_rowPixels_iff (x y : Nat) (row : UInt8) (i : Nat) :
    i ∈ rowPixels x y row ↔ ∃ c < width, Packed.bit row c = true ∧ pixelIndex (x + c) y = i := by
  simp [rowPixels, and_assoc]

theorem exists_of_mem_pixels {x y : Nat} {rows : List UInt8} {i : Nat} (h : i ∈ pixels x y rows) :
    ∃ r < rows.length, ∃ c < width, Packed.bit (rows.getD r 0) c = true ∧
      pixelIndex (x + c) (y + r) = i := by
  induction rows generalizing y with
  | nil => cases h
  | cons row rest ih =>
    rcases List.mem_append.mp h with hrow | hrest
    · obtain ⟨c, hc, hset, hi⟩ := (mem_rowPixels_iff x y row i).mp hrow
      exact ⟨0, Nat.zero_lt_succ _, c, hc, hset, hi⟩
    · obtain ⟨r, hr, c, hc, hset, hi⟩ := ih hrest
      rw [Nat.add_assoc, Nat.add_comm 1 r] at hi
      exact ⟨r + 1, Nat.succ_lt_succ hr, c, hc, hset, hi⟩

theorem mem_pixels_of_bit {x y : Nat} {rows : List UInt8} {r c : Nat} (hr : r < rows.length)
    (hc : c < width) (hset : Packed.bit (rows.getD r 0) c = true) :
    pixelIndex (x + c) (y + r) ∈ pixels x y rows := by
  induction rows generalizing y r with
  | nil => cases hr
  | cons row rest ih =>
    rw [pixels, List.mem_append]
    cases r with
    | zero => exact .inl ((mem_rowPixels_iff x y row _).mpr ⟨c, hc, hset, rfl⟩)
    | succ r =>
      have hrest := ih (y := y + 1) (Nat.lt_of_succ_lt_succ hr) hset
      rw [Nat.add_assoc, Nat.add_comm 1 r] at hrest
      exact .inr hrest

theorem lt_of_mem_pixels {x y : Nat} {rows : List UInt8} {i : Nat} (h : i ∈ pixels x y rows) :
    i < 8 * Memory.frameSize := by
  obtain ⟨r, -, c, -, -, rfl⟩ := exists_of_mem_pixels h
  exact pixelIndex_lt _ _

theorem nodup_rowPixels (x y : Nat) (row : UInt8) : (rowPixels x y row).Nodup := by
  refine List.Nodup.map_on ?_ (List.nodup_range.filter _)
  intro c hc d hd heq
  have hc8 : c < 8 := List.mem_range.mp (List.mem_filter.mp hc).1
  have hd8 : d < 8 := List.mem_range.mp (List.mem_filter.mp hd).1
  -- Eight columns fit into the frame, so they stay apart even around its edge.
  have hcolumn : (x + c) % 64 = (x + d) % 64 := by
    unfold pixelIndex frameWidth frameHeight at heq
    omega
  omega

/-- **No two pixels of a sprite fall on the same pixel**, as the frame has enough rows and
columns. -/
theorem nodup_pixels (x y : Nat) {rows : List UInt8} (h : rows.length ≤ frameHeight) :
    (pixels x y rows).Nodup := by
  induction rows generalizing y with
  | nil => exact List.nodup_nil
  | cons row rest ih =>
    rw [List.length_cons] at h
    refine List.nodup_append.mpr ⟨nodup_rowPixels x y row, ih (y + 1) (by omega), ?_⟩
    rintro i hrow j hrest rfl
    obtain ⟨c, -, -, hi⟩ := (mem_rowPixels_iff x y row i).mp hrow
    obtain ⟨r, hr, d, -, -, hj⟩ := exists_of_mem_pixels hrest
    have hline : y % 32 = (y + 1 + r) % 32 := by
      unfold pixelIndex frameWidth frameHeight at hi hj
      omega
    have hr' : r + 1 < 32 := Nat.lt_of_lt_of_le (Nat.succ_lt_succ hr) h
    omega

/-- Whether a sprite inverts the pixel at a position of the frame: the row and the column at which
it lies behind the origin are a row and a column of the sprite, which is set there. -/
def inverts (x y height : Nat) (row : Nat → UInt8) (px py : Nat) : Bool :=
  decide (behind frameHeight y py < height) && decide (behind frameWidth x px < width) &&
    Packed.bit (row (behind frameHeight y py)) (behind frameWidth x px)

theorem inverts_congr (x y : Nat) {height : Nat} {row row' : Nat → UInt8}
    (h : ∀ r < height, row r = row' r) (px py : Nat) :
    inverts x y height row px py = inverts x y height row' px py := by
  unfold inverts
  by_cases hr : behind frameHeight y py < height
  · rw [h _ hr]
  · rw [decide_eq_false hr, Bool.false_and, Bool.false_and, Bool.false_and]

/-- **Where the pixels of a sprite fall.** -/
theorem mem_pixels_iff (x y : Nat) {rows : List UInt8} (h : rows.length ≤ frameHeight)
    {px py : Nat} (hpx : px < frameWidth) (hpy : py < frameHeight) :
    py * frameWidth + px ∈ pixels x y rows ↔
      inverts x y rows.length (rows.getD · 0) px py = true := by
  simp only [inverts, Bool.and_eq_true, decide_eq_true_eq, and_assoc]
  constructor
  · intro hmem
    obtain ⟨r, hr, c, hc, hset, hindex⟩ := exists_of_mem_pixels hmem
    -- The sprite ends before it comes round to its origin, so a pixel has one place in it.
    obtain ⟨hcolumn, hline⟩ := (pixelIndex_eq_iff hpx).mp hindex
    have hrow := (behind_eq_iff hpy (Nat.lt_of_lt_of_le hr h)).mpr hline
    have hcol := (behind_eq_iff hpx (Nat.lt_trans hc (by decide))).mpr hcolumn
    rw [hrow, hcol]
    exact ⟨hr, hc, hset⟩
  · rintro ⟨hr, hc, hset⟩
    have hline := (behind_eq_iff hpy (Nat.lt_of_lt_of_le hr h)).mp rfl
    have hcolumn := (behind_eq_iff hpx (Nat.lt_trans hc (by decide))).mp rfl
    rw [← (pixelIndex_eq_iff hpx).mpr ⟨hcolumn, hline⟩]
    exact mem_pixels_of_bit hr hc hset

example : pixels 62 31 [0x30, 0xC0] = [31 * 64 + 0, 31 * 64 + 1, 0 * 64 + 62, 0 * 64 + 63] := by
  decide

/-! ## Drawing -/

/-- Some pixel of the frame was lit and is dark afterwards. -/
def Erases (m after : Memory) : Prop :=
  ∃ px < frameWidth, ∃ py < frameHeight,
    m.pixel (py * frameWidth + px) = true ∧ after.pixel (py * frameWidth + px) = false

section Draw

variable (m : Memory) (x y : Nat) {rows : List UInt8}

theorem pixel_draw (h : rows.length ≤ frameHeight) (j : Nat) :
    (draw m x y rows).1.pixel j = (m.pixel j ^^ decide (j ∈ pixels x y rows)) :=
  pixel_flipAll false m (nodup_pixels x y h) (fun _ => lt_of_mem_pixels) j

theorem snd_draw (h : rows.length ≤ frameHeight) :
    (draw m x y rows).2 = (pixels x y rows).any m.pixel := by
  rw [draw, snd_flipAll false m (nodup_pixels x y h) fun _ => lt_of_mem_pixels, Bool.false_or]

/-- A pixel at a position is inverted exactly if the sprite is set there. -/
theorem pixel_draw_at (h : rows.length ≤ frameHeight) {px py : Nat} (hpx : px < frameWidth)
    (hpy : py < frameHeight) :
    (draw m x y rows).1.pixel (py * frameWidth + px) =
      (m.pixel (py * frameWidth + px) ^^ inverts x y rows.length (rows.getD · 0) px py) := by
  rw [pixel_draw m x y h]
  congr 1
  rw [Bool.eq_iff_iff, decide_eq_true_iff]
  exact mem_pixels_iff x y h hpx hpy

/-- Drawing collides exactly if it erases a pixel. -/
theorem snd_draw_eq_true_iff (h : rows.length ≤ frameHeight) :
    (draw m x y rows).2 = true ↔ Erases m (draw m x y rows).1 := by
  rw [snd_draw m x y h, List.any_eq_true]
  constructor
  · rintro ⟨i, hmem, hlit⟩
    have hi : i < 2048 := lt_of_mem_pixels hmem
    have hsplit : i / 64 * 64 + i % 64 = i := Nat.div_add_mod' i 64
    refine ⟨i % 64, Nat.mod_lt _ (by decide), i / 64, Nat.div_lt_of_lt_mul hi, ?_⟩
    rw [frameWidth, hsplit, pixel_draw m x y h, hlit, decide_eq_true hmem]
    exact ⟨rfl, rfl⟩
  · rintro ⟨px, -, py, -, hlit, hdark⟩
    rw [pixel_draw m x y h, hlit, Bool.true_xor, Bool.not_eq_false', decide_eq_true_iff] at hdark
    exact ⟨_, hdark, hlit⟩

end Draw

end Sprite

namespace Machine

/-- What drawing makes of a machine; coordinates and rows are those before it. -/
structure Drawn (x y : Register) (n : Nibble) (m after : Machine) : Prop where
  pixel_eq : ∀ px py, px < Sprite.frameWidth → py < Sprite.frameHeight →
    after.memory.pixel (py * Sprite.frameWidth + px) =
      (m.memory.pixel (py * Sprite.frameWidth + px) ^^
        Sprite.inverts (m.reg x).toNat (m.reg y).toNat n.val
          (fun r => m.memory.byteAt (m.index.toNat + r)) px py)
  flag_one : Sprite.Erases m.memory after.memory → after.reg 0xF = 1
  flag_zero : ¬ Sprite.Erases m.memory after.memory → after.reg 0xF = 0
  byte_eq : ∀ a, ¬ (0xF00 ≤ a ∧ a ≤ 0xFFF) → after.memory.byteAt a = m.memory.byteAt a
  reg_eq : ∀ j, j ≠ 0xF → after.reg j = m.reg j

variable {m : Machine} {x y : Register} {n : Nibble}

theorem drawSprite_of_le (h : m.index.toNat + n.val ≤ Memory.size) :
    m.drawSprite x y n =
      let drawn := Sprite.draw m.memory (m.reg x).toNat (m.reg y).toNat
        (m.memory.slice m.index.toNat n.val)
      done ({ m with memory := drawn.1 }.setReg 0xF drawn.2.toUInt8) := by
  unfold drawSprite Memory.read
  rw [if_pos h]

theorem drawn_drawSprite (h : m.index.toNat + n.val ≤ Memory.size) :
    Drawn x y n m (m.drawSprite x y n).machine := by
  have hlen : (m.memory.slice m.index.toNat n.val).length = n.val := Memory.length_slice ..
  have hrows : (m.memory.slice m.index.toNat n.val).length ≤ Sprite.frameHeight := by
    rw [hlen]
    exact Nat.le_trans (Nat.le_of_lt n.isLt) (by decide)
  -- The flag is set last, and memory is that of the drawing.
  have hmemory : (m.drawSprite x y n).machine.memory =
      (Sprite.draw m.memory (m.reg x).toNat (m.reg y).toNat
        (m.memory.slice m.index.toNat n.val)).1 := by
    rw [drawSprite_of_le h]
    rfl
  have hflag : (m.drawSprite x y n).machine.reg 0xF =
      (Sprite.draw m.memory (m.reg x).toNat (m.reg y).toNat
        (m.memory.slice m.index.toNat n.val)).2.toUInt8 := by
    rw [drawSprite_of_le h]
    exact (reg_setReg _ _ _ _).trans (if_pos rfl)
  constructor
  case pixel_eq =>
    intro px py hpx hpy
    rw [hmemory, Sprite.pixel_draw_at m.memory _ _ hrows hpx hpy, hlen]
    congr 1
    exact Sprite.inverts_congr _ _ (fun r hr => Memory.getD_slice m.memory _ hr) px py
  case flag_one =>
    intro herases
    rw [hmemory, ← Sprite.snd_draw_eq_true_iff m.memory _ _ hrows] at herases
    rw [hflag, herases]
    rfl
  case flag_zero =>
    intro hkept
    rw [hmemory, ← Sprite.snd_draw_eq_true_iff m.memory _ _ hrows, Bool.not_eq_true] at hkept
    rw [hflag, hkept]
    rfl
  case byte_eq => exact fun a ha => byteAt_drawSprite m x y n ha
  case reg_eq => exact fun j hj => reg_drawSprite m x y n hj

/-- **What `Dxyn` does**, if the rows of the sprite lie within memory, be it in the frame or not. -/
theorem drw_drawn (m : Machine) (x y : Register) (n : Nibble)
    (h : m.index.toNat + n.val ≤ Memory.size) :
    (m.execute (.drw x y n)).result = .ok .next ∧
      Drawn x y n m (m.execute (.drw x y n)).machine := by
  refine ⟨?_, drawn_drawSprite h⟩
  show (m.drawSprite x y n).result = .ok .next
  rw [drawSprite_of_le h]
  rfl

/-- A machine whose index register points at the frame, where a digit has been drawn; VF is about to
be a coordinate. -/
def drawingFrame : Machine :=
  { ((((fresh 0).drawSprite 0 1 5).machine.setReg 0xF 62).setReg 1 24) with index := 0xF00 }

/-- The rows of the sprite are those of the frame itself, and wrap around at both edges. -/
theorem drw_drawn_drawingFrame :
    drawingFrame.index.toNat + (15 : Nibble).val ≤ Memory.size ∧
      (drawingFrame.execute (.drw 0xF 1 15)).result = .ok .next ∧
      Drawn 0xF 1 15 drawingFrame (drawingFrame.execute (.drw 0xF 1 15)).machine := by
  have h : drawingFrame.index.toNat + (15 : Nibble).val ≤ Memory.size := by decide
  exact ⟨h, drw_drawn drawingFrame 0xF 1 15 h⟩

end Machine

end Chip8
