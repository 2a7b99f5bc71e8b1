import Chip8.Screen.Terminal

/-!
# Painted canvases

Painting points colours the cells on which they fall and no others, and what
was painted last covers what was painted before.  On a canvas with one cell for
each pixel of a bitmap, the coordinates of a pixel fall on the cell with the
number of the pixel.  So a canvas on which the dark and then the lit pixels of a
frame are painted shows the frame; nothing of the canvas is left unpainted.

## Main definitions

* `Canvas.Fits`: a canvas with one cell for each pixel

## Main results

* `Canvas.getD_paint`: the colour of a cell after painting
* `Canvas.cellOf?_point`: on which cell a pixel falls
* `Terminal.colourAt_paintFrame`: what a frame looks like
-/

namespace Chip8

namespace Canvas

/-! ## The colours of cells -/

section Paint

variable (c : Canvas) (colour : Colour)

/-- A canvas without colours. -/
def grid : Canvas :=
  { c with cells := #[] }

/-- Painting leaves everything of a canvas alone but the colours of its cells. -/
theorem grid_paint (points : List (Int × Int)) : (c.paint colour points).grid = c.grid := by
  induction points generalizing c with
  | nil => rfl
  | cons p rest ih =>
    have hpoint : (c.paintPoint colour p).grid = c.grid := by
      unfold paintPoint
      split <;> rfl
    exact (ih (c.paintPoint colour p)).trans hpoint

theorem columns_paint (points : List (Int × Int)) :
    (c.paint colour points).columns = c.columns := by
  have h := congrArg columns (grid_paint c colour points)
  exact h

theorem rows_paint (points : List (Int × Int)) :
    (c.paint colour points).rows = c.rows := by
  have h := congrArg rows (grid_paint c colour points)
  exact h

theorem cellOf?_paint (points : List (Int × Int)) (q : Int × Int) :
    (c.paint colour points).cellOf? q = c.cellOf? q := by
  have h := congrArg (cellOf? · q) (grid_paint c colour points)
  exact h

theorem cellOf?_paintPoint (p q : Int × Int) : (c.paintPoint colour p).cellOf? q = c.cellOf? q :=
  cellOf?_paint c colour [p] q

theorem size_paintPoint (p : Int × Int) : (c.paintPoint colour p).cells.size = c.cells.size := by
  unfold paintPoint
  split
  · exact Array.size_setIfInBounds
  · rfl

theorem size_paint (points : List (Int × Int)) :
    (c.paint colour points).cells.size = c.cells.size := by
  induction points generalizing c with
  | nil => rfl
  | cons p rest ih => exact (ih (c.paintPoint colour p)).trans (size_paintPoint c colour p)

theorem getD_paintPoint (p : Int × Int) {i : Nat} (hi : i < c.cells.size) :
    (c.paintPoint colour p).cells.getD i none =
      if c.cellOf? p = some i then some colour else c.cells.getD i none := by
  unfold paintPoint
  cases hcell : c.cellOf? p with
  | none => simp
  | some j =>
    by_cases hji : j = i
    · subst hji
      simp [hi]
    · simp [hi, hji]

/-- **The colour of a cell** after points were painted. -/
theorem getD_paint (points : List (Int × Int)) {i : Nat} (hi : i < c.cells.size) :
    (c.paint colour points).cells.getD i none =
      if ∃ p ∈ points, c.cellOf? p = some i then some colour else c.cells.getD i none := by
  induction points generalizing c with
  | nil => simp [paint]
  | cons p rest ih =>
    have hsize : i < (c.paintPoint colour p).cells.size := by
      rw [size_paintPoint]
      exact hi
    have hrest := ih (c.paintPoint colour p) hsize
    simp only [cellOf?_paintPoint, getD_paintPoint c colour p hi] at hrest
    refine hrest.trans ?_
    -- The cell is coloured by a later point, or else by this one.
    by_cases hlater : ∃ q ∈ rest, c.cellOf? q = some i
    · obtain ⟨q, hq, hcell⟩ := hlater
      rw [if_pos ⟨q, hq, hcell⟩, if_pos ⟨q, List.mem_cons_of_mem p hq, hcell⟩]
    · rw [if_neg hlater]
      by_cases hnow : c.cellOf? p = some i
      · rw [if_pos hnow, if_pos ⟨p, List.mem_cons_self, hnow⟩]
      · rw [if_neg hnow, if_neg]
        rintro ⟨q, hq, hcell⟩
        rcases List.mem_cons.mp hq with rfl | hq'
        · exact hnow hcell
        · exact hlater ⟨q, hq', hcell⟩

end Paint

/-! ## One cell for each pixel -/

/-- A canvas has one cell for each pixel of a bitmap, and there are several in both directions. -/
structure Fits (c : Canvas) (r : Resolution) : Prop where
  columns_eq : c.columns = r.width
  rows_eq : c.rows = r.height
  xBounds_eq : c.xBounds = r.xBounds
  yBounds_eq : c.yBounds = r.yBounds
  two_le_width : 2 ≤ r.width
  two_le_height : 2 ≤ r.height

theorem scale_natCast {count : Nat} (h : 2 ≤ count) (k : Nat) :
    scale count 0 ((count : Int) - 1) k = k := by
  have hpos : (count : Int) - 1 ≠ 0 := by omega
  rw [scale, Int.sub_zero, Int.sub_zero, Int.mul_ediv_cancel _ hpos, Int.toNat_natCast]

theorem covers_of_lt {c : Canvas} {r : Resolution} (h : c.Fits r) {x y : Nat} (hx : x < r.width)
    (hy : y < r.height) : c.Covers ((x : Int), -(y : Int)) := by
  have hw := h.two_le_width
  have hh := h.two_le_height
  unfold Covers
  rw [h.xBounds_eq, h.yBounds_eq]
  simp only [Resolution.xBounds, Resolution.yBounds]
  omega

/-- **On which cell a pixel falls.** -/
theorem cellOf?_point {c : Canvas} {r : Resolution} (h : c.Fits r) {i : Nat}
    (hi : i < r.pixelCount) : c.cellOf? (r.point i) = some i := by
  have hw := h.two_le_width
  have hcolumn : i % r.width < r.width := Nat.mod_lt i (by omega)
  have hrow : i / r.width < r.height := Nat.div_lt_of_lt_mul hi
  have hcovers : c.Covers (r.point i) := covers_of_lt h hcolumn hrow
  rw [cellOf?, if_pos hcovers, h.xBounds_eq, h.yBounds_eq, h.columns_eq, h.rows_eq]
  simp only [Resolution.xBounds, Resolution.yBounds, Resolution.point, Int.neg_zero, Int.neg_neg]
  rw [scale_natCast h.two_le_height, scale_natCast hw, Nat.div_add_mod']

end Canvas

namespace Resolution

/-- Every row and column have a pixel. -/
theorem lt_pixelCount {r : Resolution} {x y : Nat} (hx : x < r.width) (hy : y < r.height) :
    y * r.width + x < r.pixelCount := by
  have hrows : (y + 1) * r.width ≤ r.height * r.width := Nat.mul_le_mul_right _ hy
  rw [Nat.succ_mul, Nat.mul_comm r.height] at hrows
  exact Nat.lt_of_lt_of_le (Nat.add_lt_add_left hx _) hrows

theorem mem_plane? {r : Resolution} {data : List UInt8} {value : Nat} {points : List (Int × Int)}
    (h : r.plane? data value = some points) (p : Int × Int) :
    p ∈ points ↔ ∃ i < r.pixelCount, (Packed.bitAt data i).toNat = value ∧ r.point i = p := by
  unfold plane? at h
  split at h
  · obtain rfl := Option.some.inj h
    simp [planeIndices_eq_filter, and_assoc]
  · cases h

end Resolution

namespace Canvas

theorem exists_cellOf?_iff {c : Canvas} {r : Resolution} (h : c.Fits r) {data : List UInt8}
    {value : Nat} {points : List (Int × Int)} (hpoints : r.plane? data value = some points)
    {i : Nat} (hi : i < r.pixelCount) :
    (∃ p ∈ points, c.cellOf? p = some i) ↔ (Packed.bitAt data i).toNat = value := by
  constructor
  · rintro ⟨p, hp, hcell⟩
    obtain ⟨j, hj, hvalue, rfl⟩ := (Resolution.mem_plane? hpoints p).mp hp
    rw [cellOf?_point h hj] at hcell
    obtain rfl := Option.some.inj hcell
    exact hvalue
  · intro hvalue
    have hpoint := (Resolution.mem_plane? hpoints (r.point i)).mpr ⟨i, hi, hvalue, rfl⟩
    exact ⟨r.point i, hpoint, cellOf?_point h hi⟩

end Canvas

namespace Terminal

/-! ## Frames -/

/-- A terminal that is not too large has one cell for each pixel. -/
theorem fits_canvasOf {r : Resolution} (hw : 2 ≤ r.width) (hh : 2 ≤ r.height)
    (hcells : (r.width + 2) * (r.height + 2) ≤ Area.maxCells) : (canvasOf r).Fits r := by
  have harea : boxArea r = ⟨r.width + 2, r.height + 2⟩ := Area.fitted_of_le hcells
  exact ⟨congrArg (·.columns - 2) harea, congrArg (·.rows - 2) harea, rfl, rfl, hw, hh⟩

theorem columns_paintFrame (r : Resolution) (dark lit : List (Int × Int)) :
    (paintFrame r dark lit).columns = (canvasOf r).columns := by
  rw [paintFrame, Canvas.columns_paint, Canvas.columns_paint]

theorem rows_paintFrame (r : Resolution) (dark lit : List (Int × Int)) :
    (paintFrame r dark lit).rows = (canvasOf r).rows := by
  rw [paintFrame, Canvas.rows_paint, Canvas.rows_paint]

/-- The colour of a pixel. -/
def colourOf (lit : Bool) : Colour :=
  if lit then .white else .black

/-- **What a frame looks like**: every cell has the colour of its pixel. -/
theorem colourAt_paintFrame {r : Resolution} (hfits : (canvasOf r).Fits r) {data : List UInt8}
    {dark lit : List (Int × Int)} (hdark : r.plane? data 0 = some dark)
    (hlit : r.plane? data 1 = some lit) {x y : Nat} (hx : x < r.width) (hy : y < r.height) :
    (paintFrame r dark lit).colourAt x y =
      some (colourOf (Packed.bitAt data (y * r.width + x))) := by
  have hi : y * r.width + x < r.pixelCount := Resolution.lt_pixelCount hx hy
  have hblank : y * r.width + x < (canvasOf r).cells.size := by
    have hsize : (canvasOf r).cells.size = (canvasOf r).columns * (canvasOf r).rows :=
      Array.size_replicate
    rw [hsize, hfits.columns_eq, hfits.rows_eq]
    exact hi
  have hdarkened : y * r.width + x < ((canvasOf r).paint .black dark).cells.size := by
    rw [Canvas.size_paint]
    exact hblank
  have hcolumns : (paintFrame r dark lit).columns = r.width :=
    (columns_paintFrame r dark lit).trans hfits.columns_eq
  rw [Canvas.colourAt, hcolumns, paintFrame, Canvas.getD_paint _ _ _ hdarkened,
    Canvas.getD_paint _ _ _ hblank]
  simp only [Canvas.cellOf?_paint, Canvas.exists_cellOf?_iff hfits hlit hi,
    Canvas.exists_cellOf?_iff hfits hdark hi]
  -- A lit pixel is painted last; any other was painted dark, and not again.
  cases Packed.bitAt data (y * r.width + x) with
  | true => rfl
  | false => rfl

end Terminal

end Chip8
