/-!
# Canvases

A canvas is a grid of cells with a system of coordinates laid over it, `x` to
the right and `y` upwards.  Painting points colours the cells on which they
fall; a later point on the same cell covers an earlier one.  Points out of
bounds fall on no cell, and if the coordinates have no extent in one of the two
directions, no point falls on any cell.
-/

namespace Chip8

/-- The colours of pixels. -/
inductive Colour
  | black
  | white
  deriving DecidableEq, Repr

/-- A grid of cells under a system of coordinates. -/
structure Canvas where
  /-- The cells of a row. -/
  columns : Nat
  /-- The number of rows. -/
  rows : Nat
  /-- The lowest and the highest `x`. -/
  xBounds : Int × Int
  /-- The lowest and the highest `y`. -/
  yBounds : Int × Int
  /-- The colours of the cells, row by row. -/
  cells : Array (Option Colour)

namespace Canvas

/-- A canvas on which nothing is painted. -/
def blank (columns rows : Nat) (xBounds yBounds : Int × Int) : Canvas :=
  ⟨columns, rows, xBounds, yBounds, Array.replicate (columns * rows) none⟩

/-- Where a coordinate falls on `count` cells that span from `low` to `high`. -/
def scale (count : Nat) (low high z : Int) : Nat :=
  ((z - low) * (count - 1) / (high - low)).toNat

/-- Whether a point lies within bounds that have an extent in both directions. -/
def Covers (c : Canvas) (p : Int × Int) : Prop :=
  c.xBounds.1 ≤ p.1 ∧ p.1 ≤ c.xBounds.2 ∧ c.yBounds.1 ≤ p.2 ∧ p.2 ≤ c.yBounds.2 ∧
    c.xBounds.1 < c.xBounds.2 ∧ c.yBounds.1 < c.yBounds.2

instance (c : Canvas) (p : Int × Int) : Decidable (c.Covers p) :=
  inferInstanceAs (Decidable (_ ∧ _))

/-- The cell on which a point falls, counted row by row. -/
def cellOf? (c : Canvas) (p : Int × Int) : Option Nat :=
  if c.Covers p then
    -- Rows are counted downwards, so `y` is turned over.
    some (scale c.rows (-c.yBounds.2) (-c.yBounds.1) (-p.2) * c.columns
      + scale c.columns c.xBounds.1 c.xBounds.2 p.1)
  else none

/-- The canvas with one more point painted. -/
def paintPoint (colour : Colour) (c : Canvas) (p : Int × Int) : Canvas :=
  match c.cellOf? p with
  | some i => { c with cells := c.cells.setIfInBounds i (some colour) }
  | none => c

/-- The canvas with points painted one after the other. -/
def paint (c : Canvas) (colour : Colour) (points : List (Int × Int)) : Canvas :=
  points.foldl (paintPoint colour) c

/-- The colour of the cell in a column and a row. -/
def colourAt (c : Canvas) (column row : Nat) : Option Colour :=
  c.cells.getD (row * c.columns + column) none

end Canvas

end Chip8
