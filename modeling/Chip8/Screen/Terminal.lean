import Chip8.Screen.Area
import Chip8.Screen.Bitmap
import Chip8.Screen.Canvas
import Chip8.Screen.Display

/-!
# The terminal display

Frames shown on a character terminal, one cell for each pixel, in a box whose
upper edge bears a title.  A note in the title tells that the tone sounds.

A frame is taken only if it has as many bytes as the pixels fill.  Every frame
is painted anew: first all dark pixels, then all lit ones.  A frame that is
refused leaves the screen as it was.

The terminal just fits the box.  If that is more than an area may have, the box
is painted smaller, several pixels share a cell, and the rest stays blank.  The
columns and rows of a terminal are counted in 16 bits, and there is at least one
pixel; a box of any other size is around no terminal that there is.
-/

namespace Chip8

/-- What is shown in one place of a terminal. -/
inductive Cell
  /-- Nothing. -/
  | blank
  /-- A character of the box or of its title. -/
  | text (c : Char)
  /-- A pixel. -/
  | pixel (colour : Colour)
  deriving DecidableEq, Repr

/-- A terminal that just fits a box around its pixels. -/
structure Terminal where
  /-- The size of the frames, one bit for each pixel. -/
  resolution : Resolution
  /-- What is shown, row by row. -/
  screen : List (List Cell)
  deriving DecidableEq, Repr

namespace Terminal

/-- The rows of a terminal that shows nothing. -/
def blankScreen (r : Resolution) : List (List Cell) :=
  List.replicate (r.height + 2) (List.replicate (r.width + 2) .blank)

/-- A terminal for frames of a size; nothing is shown yet. -/
def ofSize (width height : Nat) : Terminal :=
  ⟨{ width, height }, blankScreen { width, height }⟩

/-- The title of the box. -/
def title (tone : Bool) : List Char :=
  if tone then "CHIP-8 \u266A".toList else "CHIP-8".toList

/-- The upper edge of the box, with as much of the title as fits between its corners. -/
def upperEdge (width : Nat) (tone : Bool) : List Cell :=
  ['┌'].map .text
    ++ ((title tone ++ List.replicate width '─').take width).map .text
    ++ ['┐'].map .text

/-- The lower edge of the box. -/
def lowerEdge (width : Nat) : List Cell :=
  (['└'] ++ List.replicate width '─' ++ ['┘']).map .text

/-- The part of the terminal that the box takes up. -/
def boxArea (r : Resolution) : Area :=
  Area.fitted (r.width + 2) (r.height + 2)

/-- A canvas inside the box that lies over the pixels of a bitmap. -/
def canvasOf (r : Resolution) : Canvas :=
  Canvas.blank ((boxArea r).columns - 2) ((boxArea r).rows - 2) r.xBounds r.yBounds

/-- A canvas with the dark and then the lit pixels of a frame painted. -/
def paintFrame (r : Resolution) (dark lit : List (Int × Int)) : Canvas :=
  ((canvasOf r).paint .black dark).paint .white lit

/-- The cell that shows what is painted on a canvas. -/
def cellOf : Option Colour → Cell
  | none => .blank
  | some colour => .pixel colour

/-- A row of the screen between the sides of the box. -/
def innerRow (canvas : Canvas) (row : Nat) : List Cell :=
  .text '│' :: (List.range canvas.columns).map (fun column => cellOf (canvas.colourAt column row))
    ++ [.text '│']

/-- The box around a canvas. -/
def box (canvas : Canvas) (tone : Bool) : List (List Cell) :=
  upperEdge canvas.columns tone
    :: (List.range canvas.rows).map (innerRow canvas)
    ++ [lowerEdge canvas.columns]

/-- As much of some rows as the box may take up, and blanks around it. -/
def place (r : Resolution) (rows : List (List Cell)) : List (List Cell) :=
  let painted := (rows.take (boxArea r).rows).map fun row =>
    (row.take (boxArea r).columns).rightpad (r.width + 2) .blank
  painted.rightpad (r.height + 2) (List.replicate (r.width + 2) .blank)

/-- The whole screen that shows a canvas. -/
def frameScreen (r : Resolution) (canvas : Canvas) (tone : Bool) : List (List Cell) :=
  place r (box canvas tone)

/-- Show a frame. -/
def draw (t : Terminal) (data : List UInt8) (tone : Bool) : Option DisplayError × Terminal :=
  if data.length ≠ t.resolution.byteCount then
    (some (.wrongSize t.resolution.byteCount data.length), t)
  else
    match t.resolution.plane? data 0, t.resolution.plane? data 1 with
    | some dark, some lit =>
      (none, { t with screen := frameScreen t.resolution (paintFrame t.resolution dark lit) tone })
    | _, _ => (some (.uncovered t.resolution.pixelCount data.length), t)

/-- Show nothing. -/
def clear (t : Terminal) : Terminal :=
  { t with screen := blankScreen t.resolution }

end Terminal

instance : Display Terminal where
  draw := Terminal.draw
  clear t := (none, t.clear)
  sizeBytes t := t.resolution.byteCount

end Chip8
