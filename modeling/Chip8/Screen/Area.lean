/-!
# Areas

A rectangle of cells.  An area has at most 65535 cells; of a terminal that has
more, only an area of the same proportions in its top left corner is painted.

## Main results

* `Area.root_mul_root_le`: `root` is a square root rounded down
* `Area.fitted_of_le`: a terminal that is not too large is painted as a whole
-/

namespace Chip8

/-- A rectangle of cells. -/
structure Area where
  /-- The cells of a row. -/
  columns : Nat
  /-- The number of rows. -/
  rows : Nat
  deriving DecidableEq, Repr

namespace Area

/-- The most cells that an area may have. -/
def maxCells : Nat := 65535

/-- The largest number with the given leading binary digits whose square is at most `n`, with so
many digits still to be found. -/
def rootFrom (n : Nat) : Nat → Nat → Nat
  | 0, r => r
  | k + 1, r =>
    let next := r + 1 <<< k
    if next * next ≤ n then rootFrom n k next else rootFrom n k r

/-- The square root of a number below `2 ^ 32`, rounded down. -/
def root (n : Nat) : Nat :=
  rootFrom n 16 0

/-- The part of a terminal that is painted. -/
def fitted (columns rows : Nat) : Area :=
  if columns * rows ≤ maxCells then ⟨columns, rows⟩
  else ⟨root (maxCells * columns / rows), root (maxCells * rows / columns)⟩

theorem rootFrom_mul_rootFrom_le {n r : Nat} (k : Nat) (h : r * r ≤ n) :
    rootFrom n k r * rootFrom n k r ≤ n := by
  induction k generalizing r with
  | zero => exact h
  | succ k ih =>
    unfold rootFrom
    by_cases hn : (r + 1 <<< k) * (r + 1 <<< k) ≤ n
    · simp only [hn, if_true]
      exact ih hn
    · simp only [hn, if_false]
      exact ih h

/-- The square of a root is no more than the number itself. -/
theorem root_mul_root_le (n : Nat) : root n * root n ≤ n :=
  rootFrom_mul_rootFrom_le 16 (Nat.zero_le n)

/-- A terminal that is not too large is painted as a whole. -/
theorem fitted_of_le {columns rows : Nat} (h : columns * rows ≤ maxCells) :
    fitted columns rows = ⟨columns, rows⟩ :=
  if_pos h

end Area

end Chip8
