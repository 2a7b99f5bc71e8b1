import Chip8.Proofs.Painting

/-!
# Screens

A terminal keeps nothing but its size and what it shows.  A request that is
taken replaces all that is shown, by something that depends on the request and
on the size; one that is refused changes nothing.  So a terminal shows what it
was asked last among the requests that it took.

For a frame this is a box with one cell for each pixel in it, unless the box is
larger than an area may be.  Then fewer cells are painted than there are pixels,
and a side of the box stands where a pixel ought to be.

## Main definitions

* `Request`, `Terminal.ask`, `Terminal.askAll`: requests to a terminal
* `Terminal.cellAt?`, `Terminal.edges`: looking at a screen
* `Terminal.Faithful`: a terminal shows what it is asked

## Main results

* `Terminal.edges_frameScreen`: the box and its title
* `Terminal.cellAt?_frameScreen`, `Terminal.cellAt?_side`: the cells in the box
  and its side
* `Terminal.ask_of_taken`, `Terminal.askAll_of_taken`: what was shown before has
  no say
* `Terminal.faithful_askAll`: terminals show what they are asked
* `Terminal.side_of_overfull`: a box that is too large
-/

namespace Chip8

/-- A cell as it is before pixels are painted. -/
def Cell.unpainted : Cell → Cell
  | .pixel _ => .blank
  | cell => cell

namespace Terminal

/-! ## The box and its title -/

/-- A screen without its pixels: what is left is the box with its title. -/
def edges (screen : List (List Cell)) : List (List Cell) :=
  screen.map (·.map Cell.unpainted)

theorem edges_place (r : Resolution) (rows : List (List Cell)) :
    edges (place r rows) = place r (edges rows) := by
  simp [edges, place, List.rightpad, Cell.unpainted, Function.comp_def]

theorem map_unpainted_text (line : List Char) :
    (line.map Cell.text).map Cell.unpainted = line.map Cell.text := by
  simp [Cell.unpainted]

theorem unpainted_cellOf (colour : Option Colour) : (cellOf colour).unpainted = .blank := by
  cases colour <;> rfl

theorem colourAt_blank (columns rows : Nat) (xBounds yBounds : Int × Int) (column row : Nat) :
    (Canvas.blank columns rows xBounds yBounds).colourAt column row = none := by
  simp only [Canvas.colourAt, Canvas.blank, Array.getD_eq_getD_getElem?, Array.getElem?_replicate]
  split <;> rfl

theorem edges_upperEdge (width : Nat) (tone : Bool) :
    (upperEdge width tone).map Cell.unpainted = upperEdge width tone := by
  simp only [upperEdge, List.map_append, map_unpainted_text]

theorem edges_innerRow {canvas empty : Canvas} (hcolumns : canvas.columns = empty.columns)
    (hempty : ∀ column row, empty.colourAt column row = none) (row : Nat) :
    (innerRow canvas row).map Cell.unpainted = innerRow empty row := by
  have hside : (Cell.text '│').unpainted = .text '│' := rfl
  have hblank : cellOf none = .blank := rfl
  simp only [innerRow, List.map_append, List.map_cons, List.map_map, List.map_nil,
    Function.comp_def, unpainted_cellOf, hside, hcolumns, hempty, hblank]

/-- **The box and its title** depend on the size and on the tone only. -/
theorem edges_frameScreen {r : Resolution} {canvas : Canvas}
    (hcolumns : canvas.columns = (canvasOf r).columns) (hrows : canvas.rows = (canvasOf r).rows)
    (tone : Bool) : edges (frameScreen r canvas tone) = frameScreen r (canvasOf r) tone := by
  have hempty : ∀ column row, (canvasOf r).colourAt column row = none :=
    fun _ _ => colourAt_blank ..
  rw [frameScreen, edges_place, frameScreen]
  congr 1
  simp only [edges, box, List.map_append, List.map_cons, List.map_map, edges_upperEdge,
    Function.comp_def, edges_innerRow hcolumns hempty, hcolumns, hrows]
  rw [lowerEdge, List.map_nil, map_unpainted_text]

/-! ## The cells in the box -/

/-- What is shown in a column and a row. -/
def cellAt? (screen : List (List Cell)) (column row : Nat) : Option Cell :=
  (screen[row]?).bind (·[column]?)

/-- What is put around the box comes after it, in every row and below. -/
theorem getElem?_rightpad {α : Type} {l : List α} {i : Nat} {a : α} (h : l[i]? = some a) (n : Nat)
    (b : α) : (l.rightpad n b)[i]? = some a := by
  obtain ⟨hi, -⟩ := List.getElem?_eq_some_iff.mp h
  rw [List.rightpad, List.getElem?_append_left hi, h]

theorem cellAt?_place {r : Resolution} {rows : List (List Cell)} {column row : Nat}
    (hcolumn : column < (boxArea r).columns) (hrow : row < (boxArea r).rows)
    {cells : List Cell} (hcells : rows[row]? = some cells) {cell : Cell}
    (hcell : cells[column]? = some cell) : cellAt? (place r rows) column row = some cell := by
  have htake : (rows.take (boxArea r).rows)[row]? = some cells := by
    rw [List.getElem?_take_of_lt hrow, hcells]
  have hcut : (cells.take (boxArea r).columns)[column]? = some cell := by
    rw [List.getElem?_take_of_lt hcolumn, hcell]
  have hpainted : ((rows.take (boxArea r).rows).map fun cells =>
      (cells.take (boxArea r).columns).rightpad (r.width + 2) .blank)[row]? =
        some ((cells.take (boxArea r).columns).rightpad (r.width + 2) .blank) := by
    rw [List.getElem?_map, htake]
    rfl
  have hplaced := getElem?_rightpad hpainted (r.height + 2) (List.replicate (r.width + 2) .blank)
  show ((place r rows)[row]?).bind (·[column]?) = some cell
  rw [place, hplaced]
  exact getElem?_rightpad hcut (r.width + 2) .blank

theorem getElem?_box (canvas : Canvas) (tone : Bool) {row : Nat} (h : row < canvas.rows) :
    (box canvas tone)[row + 1]? = some (innerRow canvas row) := by
  simp [box, List.getElem?_append, h]

theorem getElem?_innerRow (canvas : Canvas) (row : Nat) {column : Nat}
    (h : column < canvas.columns) :
    (innerRow canvas row)[column + 1]? = some (cellOf (canvas.colourAt column row)) := by
  simp [innerRow, List.getElem?_append, h]

theorem getElem?_innerRow_side (canvas : Canvas) (row : Nat) :
    (innerRow canvas row)[canvas.columns + 1]? = some (.text '│') := by
  simp [innerRow]

section Box

variable {r : Resolution} {canvas : Canvas} (tone : Bool)

/-- **The cells in the box** are those of the canvas. -/
theorem cellAt?_frameScreen (hcolumns : canvas.columns = (canvasOf r).columns)
    (hrows : canvas.rows = (canvasOf r).rows) {column row : Nat} (hcolumn : column < canvas.columns)
    (hrow : row < canvas.rows) :
    cellAt? (frameScreen r canvas tone) (column + 1) (row + 1) =
      some (cellOf (canvas.colourAt column row)) := by
  have hcolumns' : canvas.columns = (boxArea r).columns - 2 := hcolumns
  have hrows' : canvas.rows = (boxArea r).rows - 2 := hrows
  exact cellAt?_place (by omega) (by omega) (getElem?_box canvas tone hrow)
    (getElem?_innerRow canvas row hcolumn)

/-- **The side of the box** stands where the canvas ends. -/
theorem cellAt?_side (hcolumns : canvas.columns = (canvasOf r).columns)
    (hrows : canvas.rows = (canvasOf r).rows) (hside : 2 ≤ (boxArea r).columns) {row : Nat}
    (hrow : row < canvas.rows) :
    cellAt? (frameScreen r canvas tone) (canvas.columns + 1) (row + 1) = some (.text '│') := by
  have hcolumns' : canvas.columns = (boxArea r).columns - 2 := hcolumns
  have hrows' : canvas.rows = (boxArea r).rows - 2 := hrows
  exact cellAt?_place (by omega) (by omega) (getElem?_box canvas tone hrow)
    (getElem?_innerRow_side canvas row)

end Box

end Terminal

/-! ## Requests -/

/-- What a terminal may be asked. -/
inductive Request
  /-- Show a frame. -/
  | draw (data : List UInt8) (tone : Bool)
  /-- Show nothing. -/
  | clear
  deriving DecidableEq, Repr

/-- A request is taken unless it is a frame of the wrong size. -/
def Request.Taken (r : Resolution) : Request → Prop
  | .draw data _ => data.length = r.byteCount
  | .clear => True

/-- The pixels of a bitmap are single bits, and fill whole bytes. -/
structure Resolution.Whole (r : Resolution) : Prop where
  bits_eq : r.bitsPerPixel = 1
  dvd_pixelCount : 8 ∣ r.pixelCount

theorem Resolution.Whole.pixelCount_eq {r : Resolution} (h : r.Whole) :
    r.pixelCount = 8 * r.byteCount := by
  rw [byteCount_of_bitsPerPixel h.bits_eq, Nat.mul_div_cancel' h.dvd_pixelCount]

theorem Resolution.Whole.exists_plane? {r : Resolution} (h : r.Whole) {data : List UInt8}
    (hlen : data.length = r.byteCount) (value : Nat) :
    ∃ points, r.plane? data value = some points := by
  have hcount : r.pixelCount = 8 * data.length := by
    rw [h.pixelCount_eq, hlen]
  exact ⟨_, if_pos (Nat.le_of_eq hcount)⟩

namespace Terminal

/-- What a terminal answers to a request, and what becomes of it. -/
def ask (t : Terminal) : Request → Option DisplayError × Terminal
  | .draw data tone => Display.draw t data tone
  | .clear => Display.clear t

/-- What becomes of a terminal under requests one after the other. -/
def askAll (t : Terminal) (requests : List Request) : Terminal :=
  requests.foldl (fun t q => (t.ask q).2) t

theorem askAll_cons (t : Terminal) (q : Request) (rest : List Request) :
    t.askAll (q :: rest) = (t.ask q).2.askAll rest := rfl

/-- A terminal of the same size that shows nothing. -/
def emptied (t : Terminal) : Terminal :=
  { t with screen := blankScreen t.resolution }

variable {t : Terminal}

theorem draw_of_ne {data : List UInt8} (h : data.length ≠ t.resolution.byteCount) (tone : Bool) :
    Display.draw t data tone = (some (.wrongSize t.resolution.byteCount data.length), t) :=
  if_pos h

/-- A frame of the right size is painted. -/
theorem draw_of_eq (hwhole : t.resolution.Whole) {data : List UInt8}
    (h : data.length = t.resolution.byteCount) (tone : Bool) :
    ∃ dark lit, t.resolution.plane? data 0 = some dark ∧ t.resolution.plane? data 1 = some lit ∧
      Display.draw t data tone = (none,
        { t with screen := frameScreen t.resolution (paintFrame t.resolution dark lit) tone }) := by
  obtain ⟨dark, hdark⟩ := hwhole.exists_plane? h 0
  obtain ⟨lit, hlit⟩ := hwhole.exists_plane? h 1
  refine ⟨dark, lit, hdark, hlit, ?_⟩
  show t.draw data tone = _
  unfold draw
  rw [if_neg (not_not_intro h), hdark, hlit]

/-- **A request that is refused** changes nothing. -/
theorem ask_of_not_taken {q : Request} (h : ¬ q.Taken t.resolution) : (t.ask q).2 = t := by
  cases q with
  | draw data tone => exact congrArg Prod.snd (draw_of_ne h tone)
  | clear => exact absurd trivial h

/-- **A request that is taken** does not ask what was shown before. -/
theorem ask_of_taken (hwhole : t.resolution.Whole) {q : Request} (h : q.Taken t.resolution) :
    t.ask q = (none, (t.emptied.ask q).2) := by
  cases q with
  | draw data tone =>
    -- Both terminals paint the same planes, as these come from the frame and the size.
    obtain ⟨dark, lit, hdark, hlit, hdraw⟩ := draw_of_eq hwhole h tone
    obtain ⟨dark', lit', hdark', hlit', hdraw'⟩ := draw_of_eq (t := t.emptied) hwhole h tone
    obtain rfl : dark = dark' := Option.some.inj (hdark.symm.trans hdark')
    obtain rfl : lit = lit' := Option.some.inj (hlit.symm.trans hlit')
    show Display.draw t data tone = (none, (Display.draw t.emptied data tone).2)
    rw [hdraw, hdraw']
    rfl
  | clear => rfl

theorem resolution_ask (t : Terminal) (q : Request) : (t.ask q).2.resolution = t.resolution := by
  cases q with
  | draw data tone =>
    show (t.draw data tone).2.resolution = t.resolution
    unfold draw
    split
    · rfl
    · split <;> rfl
  | clear => rfl

theorem resolution_askAll (t : Terminal) (requests : List Request) :
    (t.askAll requests).resolution = t.resolution := by
  induction requests generalizing t with
  | nil => rfl
  | cons q rest ih => exact (ih (t.ask q).2).trans (resolution_ask t q)

theorem askAll_of_not_taken {requests : List Request}
    (h : ∀ q ∈ requests, ¬ q.Taken t.resolution) : t.askAll requests = t := by
  induction requests with
  | nil => rfl
  | cons q rest ih =>
    obtain ⟨hq, hrest⟩ := List.forall_mem_cons.mp h
    rw [askAll_cons, ask_of_not_taken hq, ih hrest]

theorem askAll_append (t : Terminal) (first rest : List Request) :
    t.askAll (first ++ rest) = (t.askAll first).askAll rest :=
  List.foldl_append

theorem emptied_congr {s : Terminal} (h : s.resolution = t.resolution) : s.emptied = t.emptied :=
  congrArg (fun r => Terminal.mk r (blankScreen r)) h

/-- **After any requests**, a terminal shows what it was asked last among those that it took. -/
theorem askAll_of_taken (hwhole : t.resolution.Whole) (before : List Request) {q : Request}
    (h : q.Taken t.resolution) {after : List Request}
    (hafter : ∀ q ∈ after, ¬ q.Taken t.resolution) :
    t.askAll (before ++ q :: after) = (t.emptied.ask q).2 := by
  have hsize : (t.askAll before).resolution = t.resolution := resolution_askAll t before
  -- All that is left of the requests before is the size, and that was there from the start.
  have hask : ((t.askAll before).ask q).2 = (t.emptied.ask q).2 := by
    rw [ask_of_taken (hsize ▸ hwhole) (hsize ▸ h), emptied_congr hsize]
  have hsize' : (t.emptied.ask q).2.resolution = t.resolution := resolution_ask t.emptied q
  rw [askAll_append, askAll_cons, hask]
  exact askAll_of_not_taken (hsize' ▸ hafter)

/-! ## Terminals show what they are asked -/

section Shown

variable {data : List UInt8}

theorem edges_draw (hwhole : t.resolution.Whole) (h : data.length = t.resolution.byteCount)
    (tone : Bool) :
    edges (Display.draw t data tone).2.screen =
      frameScreen t.resolution (canvasOf t.resolution) tone := by
  obtain ⟨dark, lit, -, -, hdraw⟩ := draw_of_eq hwhole h tone
  rw [hdraw]
  exact edges_frameScreen (columns_paintFrame ..) (rows_paintFrame ..) tone

theorem cellAt?_draw (hwhole : t.resolution.Whole) (h : data.length = t.resolution.byteCount)
    (hfits : (canvasOf t.resolution).Fits t.resolution) (tone : Bool) {x y : Nat}
    (hx : x < t.resolution.width) (hy : y < t.resolution.height) :
    cellAt? (Display.draw t data tone).2.screen (x + 1) (y + 1) =
      some (.pixel (colourOf (Packed.bitAt data (y * t.resolution.width + x)))) := by
  obtain ⟨dark, lit, hdark, hlit, hdraw⟩ := draw_of_eq hwhole h tone
  have hcolumns : (paintFrame t.resolution dark lit).columns = t.resolution.width :=
    (columns_paintFrame ..).trans hfits.columns_eq
  have hrows : (paintFrame t.resolution dark lit).rows = t.resolution.height :=
    (rows_paintFrame ..).trans hfits.rows_eq
  rw [hdraw]
  show cellAt? (frameScreen t.resolution (paintFrame t.resolution dark lit) tone) _ _ = _
  rw [cellAt?_frameScreen tone (columns_paintFrame ..) (rows_paintFrame ..)
    (hcolumns.symm ▸ hx) (hrows.symm ▸ hy), colourAt_paintFrame hfits hdark hlit hx hy]
  rfl

end Shown

/-- A terminal of a size shows what it is asked. -/
structure Faithful (w h : Nat) (t : Terminal) : Prop where
  /-- A frame of the wrong size is refused, and changes nothing. -/
  refused : ∀ data tone, data.length ≠ Display.sizeBytes t →
    Display.draw t data tone = (some (.wrongSize (w * h / 8) data.length), t)
  /-- A frame of the right size is shown, and looks as it does on a new terminal. -/
  shown : ∀ data tone, data.length = Display.sizeBytes t →
    Display.draw t data tone = (none, (Display.draw (ofSize w h) data tone).2)
  /-- It stays until another request is taken. -/
  lasting : ∀ data tone after, data.length = Display.sizeBytes t →
    (∀ q ∈ after, ¬ q.Taken t.resolution) →
      t.askAll (.draw data tone :: after) = (Display.draw (ofSize w h) data tone).2
  /-- The box and its title depend on the size and on the tone. -/
  edges_eq : ∀ data tone, data.length = Display.sizeBytes t →
    edges (Display.draw t data tone).2.screen =
      frameScreen { width := w, height := h } (canvasOf { width := w, height := h }) tone
  /-- Each pixel is shown in its place, if the whole terminal is no larger than an area may be. -/
  pixel_eq : (w + 2) * (h + 2) ≤ Area.maxCells → ∀ data tone, data.length = Display.sizeBytes t →
    ∀ x y, x < w → y < h → cellAt? (Display.draw t data tone).2.screen (x + 1) (y + 1) =
      some (.pixel (if Packed.bitAt data (y * w + x) then .white else .black))

theorem whole_ofSize {w h : Nat} (h8 : 8 ∣ w * h) : (ofSize w h).resolution.Whole :=
  ⟨rfl, h8⟩

theorem sizeBytes_ofSize (w h : Nat) : (ofSize w h).resolution.byteCount = w * h / 8 :=
  Resolution.byteCount_of_bitsPerPixel rfl

theorem faithful_of_resolution {w h : Nat} (hw : 2 ≤ w) (hh : 2 ≤ h) (h8 : 8 ∣ w * h)
    (hsize : t.resolution = (ofSize w h).resolution) : Faithful w h t := by
  have hwhole : t.resolution.Whole := hsize ▸ whole_ofSize h8
  have hemptied : t.emptied = ofSize w h := emptied_congr (t := ofSize w h) hsize
  constructor
  case refused =>
    intro data tone hne
    refine (draw_of_ne hne tone).trans ?_
    rw [hsize, sizeBytes_ofSize]
  case shown =>
    intro data tone hlen
    refine (ask_of_taken (q := .draw data tone) hwhole hlen).trans ?_
    rw [hemptied]
    rfl
  case lasting =>
    intro data tone after hlen hafter
    refine (askAll_of_taken (q := .draw data tone) hwhole [] hlen hafter).trans ?_
    rw [hemptied]
    rfl
  case edges_eq =>
    intro data tone hlen
    refine (edges_draw hwhole hlen tone).trans ?_
    rw [hsize]
    rfl
  case pixel_eq =>
    intro hcells data tone hlen x y hx hy
    have hfits : (canvasOf t.resolution).Fits t.resolution :=
      hsize ▸ fits_canvasOf (r := (ofSize w h).resolution) hw hh hcells
    have hwidth : t.resolution.width = w := congrArg Resolution.width hsize
    have hheight : t.resolution.height = h := congrArg Resolution.height hsize
    refine (cellAt?_draw hwhole hlen hfits tone (hwidth.symm ▸ hx) (hheight.symm ▸ hy)).trans ?_
    rw [hwidth]
    rfl

/-- **Terminals show what they are asked**, whatever they were asked before. -/
theorem faithful_askAll (w h : Nat) (hw : 2 ≤ w) (hh : 2 ≤ h) (h8 : 8 ∣ w * h)
    (requests : List Request) : Faithful w h ((ofSize w h).askAll requests) :=
  faithful_of_resolution hw hh h8 (resolution_askAll (ofSize w h) requests)

/-- A small terminal after frames of several sizes; the whole of it is painted. -/
theorem faithful_small :
    2 ≤ 4 ∧ 2 ≤ 2 ∧ 8 ∣ 4 * 2 ∧ (4 + 2) * (2 + 2) ≤ Area.maxCells ∧
      Faithful 4 2
        ((ofSize 4 2).askAll [.draw [0x99] true, .clear, .draw [] false, .draw [0x5A] true]) :=
  ⟨by decide, by decide, by decide, by decide,
    faithful_askAll 4 2 (by decide) (by decide) (by decide) _⟩

/-! ## A box that is too large -/

theorem columns_boxArea_lt {r : Resolution}
    (hover : Area.maxCells < (r.width + 2) * (r.height + 2)) :
    (boxArea r).columns < r.width + 2 := by
  rw [boxArea, Area.fitted, if_neg (Nat.not_le.mpr hover)]
  refine Nat.not_le.mp fun hge => ?_
  -- Else the square of the width would be in proportion to the most cells that there may be.
  have hsquare : (r.width + 2) * (r.width + 2) ≤
      Area.maxCells * (r.width + 2) / (r.height + 2) :=
    Nat.le_trans (Nat.mul_le_mul hge hge) (Area.root_mul_root_le _)
  have hcells : (r.width + 2) * (r.height + 2) * (r.width + 2) ≤
      Area.maxCells * (r.width + 2) := by
    rw [Nat.mul_right_comm]
    exact (Nat.le_div_iff_mul_le (Nat.zero_lt_succ _)).mp hsquare
  exact Nat.not_le.mpr hover (Nat.le_of_mul_le_mul_right hcells (Nat.zero_lt_succ _))

/-- **If the box is too large**, a side of it stands in the place of a pixel, in every row of the
canvas. -/
theorem side_of_overfull (hwhole : t.resolution.Whole) {data : List UInt8}
    (h : data.length = t.resolution.byteCount)
    (hover : Area.maxCells < (t.resolution.width + 2) * (t.resolution.height + 2))
    (hside : 2 ≤ (boxArea t.resolution).columns) (tone : Bool) {y : Nat}
    (hy : y < (canvasOf t.resolution).rows) :
    (canvasOf t.resolution).columns < t.resolution.width ∧
      cellAt? (Display.draw t data tone).2.screen ((canvasOf t.resolution).columns + 1) (y + 1) =
        some (.text '│') := by
  have hpainted : (boxArea t.resolution).columns < t.resolution.width + 2 :=
    columns_boxArea_lt hover
  have hcanvas : (canvasOf t.resolution).columns = (boxArea t.resolution).columns - 2 := rfl
  refine ⟨by omega, ?_⟩
  obtain ⟨dark, lit, -, -, hdraw⟩ := draw_of_eq hwhole h tone
  have hcolumns := columns_paintFrame t.resolution dark lit
  have hrows := rows_paintFrame t.resolution dark lit
  rw [hdraw]
  have hcell := cellAt?_side tone hcolumns hrows hside (hrows.symm ▸ hy)
  rw [hcolumns] at hcell
  exact hcell

/-- A frame of stripes for 254 by 256 pixels. -/
def stripes : List UInt8 :=
  List.replicate 8128 0x99

/-- Of a terminal with 256 by 258 cells, 255 columns are painted.  The frame is taken, but the last
pixel of its upper row is not shown: a side of the box is there. -/
theorem stripes_overfull :
    2 ≤ 254 ∧ 2 ≤ 256 ∧ 8 ∣ 254 * 256 ∧ stripes.length = Display.sizeBytes (ofSize 254 256) ∧
      (Display.draw (ofSize 254 256) stripes false).1 = none ∧
      cellAt? (Display.draw (ofSize 254 256) stripes false).2.screen (253 + 1) (0 + 1) =
        some (.text '│') ∧
      ¬ ∀ x y, x < 254 → y < 256 →
        cellAt? (Display.draw (ofSize 254 256) stripes false).2.screen (x + 1) (y + 1) =
          some (.pixel (if Packed.bitAt stripes (y * 254 + x) then .white else .black)) := by
  have hlen : stripes.length = (ofSize 254 256).resolution.byteCount := List.length_replicate
  have hwhole : (ofSize 254 256).resolution.Whole := whole_ofSize (by decide)
  have harea : boxArea (ofSize 254 256).resolution = ⟨255, 256⟩ := by
    decide +kernel
  have hcolumns : (canvasOf (ofSize 254 256).resolution).columns = 253 :=
    congrArg (·.columns - 2) harea
  have hrows : (canvasOf (ofSize 254 256).resolution).rows = 254 := congrArg (·.rows - 2) harea
  have hside : cellAt? (Display.draw (ofSize 254 256) stripes false).2.screen (253 + 1) (0 + 1) =
      some (.text '│') := by
    have hwide : 2 ≤ (boxArea (ofSize 254 256).resolution).columns := by
      rw [harea]
      decide
    have htop : 0 < (canvasOf (ofSize 254 256).resolution).rows := by
      rw [hrows]
      decide
    obtain ⟨-, hcell⟩ := side_of_overfull hwhole hlen (by decide) hwide false htop
    rw [hcolumns] at hcell
    exact hcell
  refine ⟨by decide, by decide, by decide, hlen, ?_, hside, ?_⟩
  · exact congrArg Prod.fst (ask_of_taken (q := .draw stripes false) hwhole hlen)
  · intro hpixels
    have hpixel := hpixels 253 0 (by decide) (by decide)
    rw [hside] at hpixel
    cases hpixel

end Terminal

end Chip8
