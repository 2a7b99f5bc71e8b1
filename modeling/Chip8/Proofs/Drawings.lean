import Chip8.Proofs.Sprites

/-!
# Drawings commute and cancel

A drawing inverts the pixels that its sprite covers.  Which these are is told by
the registers of its place and by the rows in memory.  If the place is not in
VF and the rows are not in the frame, no other drawing changes them.  So
a list of such drawings leaves a pixel as it was or inverts it, as the number of
those that cover it is even or odd, and this number does not depend on their
order.  A drawing that occurs twice adds two to it and might as well be left out.

A pixel that a drawing covers was lit before it exactly if it is unlit after it.
So what the first of two equal drawings collides with is just what the second
does not.

Both conditions are needed: a place in VF is moved by the flag of another
drawing, and rows in the frame are drawn over.

## Main definitions

* `Drawing`, `Machine.drawAll`: sprites drawn one after the other
* `Drawing.Apart`: a drawing has no part in what drawings change
* `Drawing.Meets`: a sprite is set over a pixel that is lit, or unlit

## Main results

* `Machine.pixel_drawAll`: drawings count by their parity
* `Drawing.flag_on`: what a drawing collides with
* `Machine.drawAll_commutes`: drawings commute and cancel
-/

namespace Chip8

/-- A byte is known by its pixels. -/
theorem Packed.ext_bit {b c : UInt8} (h : ∀ k < 8, bit b k = bit c k) : b = c := by
  apply UInt8.toNat_inj.mp
  apply Nat.eq_of_testBit_eq
  intro i
  by_cases hi : i < 8
  · have hk := h (7 - i) (by omega)
    have hsub : 7 - (7 - i) = i := by omega
    rwa [bit, bit, hsub] at hk
  · have hpow : 2 ^ 8 ≤ 2 ^ i := Nat.pow_le_pow_right (by decide) (Nat.not_lt.mp hi)
    rw [Nat.testBit_lt_two_pow (Nat.lt_of_lt_of_le b.toNat_lt hpow),
      Nat.testBit_lt_two_pow (Nat.lt_of_lt_of_le c.toNat_lt hpow)]

/-- A frame is known by its pixels. -/
theorem Memory.frame_ext {m m' : Memory} (h : ∀ i, m.pixel i = m'.pixel i) :
    m.frame = m'.frame := by
  unfold frame slice
  apply List.map_congr_left
  intro a _
  apply Packed.ext_bit
  intro k hk
  have hpixel := h (8 * a + k)
  have hbyte : (8 * a + k) / 8 = a := by omega
  have hbit : (8 * a + k) % 8 = k := by omega
  rwa [pixel, pixel, hbyte, hbit] at hpixel

/-- A sprite that is to be drawn. -/
structure Drawing where
  /-- Where its rows lie. -/
  index : UInt16
  /-- The register of the column. -/
  x : Register
  /-- The register of the row. -/
  y : Register
  /-- How many rows it has. -/
  height : Nibble
  deriving DecidableEq, Repr

namespace Drawing

/-- `Dxyn` carried out with the index register pointing at the rows. -/
def on (d : Drawing) (m : Machine) : Outcome :=
  ({ m with index := d.index }).execute (.drw d.x d.y d.height)

/-- A drawing has no part in what drawings change: its place is not in VF, and its rows lie within
memory and outside of the frame. -/
structure Apart (d : Drawing) : Prop where
  x_ne : d.x ≠ 0xF
  y_ne : d.y ≠ 0xF
  inside : d.index.toNat + d.height.val ≤ Memory.size
  outside : ∀ r < d.height.val, ¬ (0xF00 ≤ d.index.toNat + r ∧ d.index.toNat + r ≤ 0xFFF)

instance (d : Drawing) : Decidable d.Apart :=
  decidable_of_iff
    (d.x ≠ 0xF ∧ d.y ≠ 0xF ∧ d.index.toNat + d.height.val ≤ Memory.size ∧
      ∀ r < d.height.val, ¬ (0xF00 ≤ d.index.toNat + r ∧ d.index.toNat + r ≤ 0xFFF))
    ⟨fun ⟨hx, hy, hin, hout⟩ => ⟨hx, hy, hin, hout⟩, fun h => ⟨h.1, h.2, h.3, h.4⟩⟩

/-- The rows of the sprite. -/
def rows (d : Drawing) (m : Machine) : List UInt8 :=
  m.memory.slice d.index.toNat d.height.val

/-- The pixels of the frame that the sprite covers where it is set. -/
def pixels (d : Drawing) (m : Machine) : List Nat :=
  Sprite.pixels (m.reg d.x).toNat (m.reg d.y).toNat (d.rows m)

/-- Whether the sprite covers a pixel. -/
def covers (d : Drawing) (m : Machine) (i : Nat) : Bool :=
  decide (i ∈ d.pixels m)

/-- The sprite is set over a pixel that is lit, or over one that is unlit. -/
def Meets (d : Drawing) (m : Machine) (lit : Bool) : Prop :=
  ∃ r < d.height.val, ∃ c < Sprite.width,
    Packed.bit (m.memory.byteAt (d.index.toNat + r)) c = true ∧
      m.memory.pixel (Sprite.pixelIndex ((m.reg d.x).toNat + c) ((m.reg d.y).toNat + r)) = lit

section Rows

variable (d : Drawing) (m : Machine)

theorem length_rows : (d.rows m).length = d.height.val :=
  Memory.length_slice ..

theorem length_rows_le : (d.rows m).length ≤ Sprite.frameHeight := by
  rw [length_rows]
  exact Nat.le_trans (Nat.le_of_lt d.height.isLt) (by decide)

theorem exists_mem_pixels_iff (lit : Bool) :
    (∃ i ∈ d.pixels m, m.memory.pixel i = lit) ↔ d.Meets m lit := by
  constructor
  · rintro ⟨i, hi, hlit⟩
    obtain ⟨r, hr, c, hc, hset, rfl⟩ := Sprite.exists_of_mem_pixels hi
    rw [length_rows] at hr
    rw [rows, Memory.getD_slice m.memory _ hr] at hset
    exact ⟨r, hr, c, hc, hset, hlit⟩
  · rintro ⟨r, hr, c, hc, hset, hlit⟩
    refine ⟨_, Sprite.mem_pixels_of_bit ?_ hc ?_, hlit⟩
    · rwa [length_rows]
    · rwa [rows, Memory.getD_slice m.memory _ hr]

end Rows

/-! ## One drawing -/

section On

variable {d : Drawing} {m : Machine}

theorem on_of_inside (h : d.index.toNat + d.height.val ≤ Memory.size) :
    d.on m =
      let drawn := Sprite.draw m.memory (m.reg d.x).toNat (m.reg d.y).toNat (d.rows m)
      Machine.done ({ m with index := d.index, memory := drawn.1 }.setReg 0xF drawn.2.toUInt8) :=
  Machine.drawSprite_of_le (m := { m with index := d.index }) h

theorem result_on (h : d.index.toNat + d.height.val ≤ Memory.size) :
    (d.on m).result = .ok .next := by
  rw [on_of_inside h]
  rfl

/-- **A drawing inverts the pixels that its sprite covers.** -/
theorem pixel_on (h : d.index.toNat + d.height.val ≤ Memory.size) (i : Nat) :
    (d.on m).machine.memory.pixel i = (m.memory.pixel i ^^ d.covers m i) := by
  rw [on_of_inside h]
  exact Sprite.pixel_draw m.memory _ _ (d.length_rows_le m) i

/-- **A drawing collides with the lit pixels that its sprite covers.** -/
theorem flag_on (h : d.index.toNat + d.height.val ≤ Memory.size) :
    (d.on m).machine.reg 0xF = ((d.pixels m).any m.memory.pixel).toUInt8 := by
  rw [on_of_inside h]
  refine (Machine.reg_setReg _ _ _ _).trans ?_
  rw [if_pos rfl, Sprite.snd_draw m.memory _ _ (d.length_rows_le m)]
  rfl

/-- The flag is one or zero as the sprite is set over a lit pixel or not. -/
theorem flag_on_iff (h : d.index.toNat + d.height.val ≤ Memory.size) :
    ((d.on m).machine.reg 0xF = 1 ↔ d.Meets m true) ∧
      ((d.on m).machine.reg 0xF = 0 ↔ ¬ d.Meets m true) := by
  rw [flag_on h, ← exists_mem_pixels_iff, ← List.any_eq_true]
  cases (d.pixels m).any m.memory.pixel with
  | false => decide
  | true => decide

end On

/-! ## Drawings among each other -/

/-- Machines agree in all that drawings leave alone, apart from where the index register points. -/
structure Alike (m m' : Machine) : Prop where
  reg_eq : ∀ j, j ≠ 0xF → m'.reg j = m.reg j
  byte_eq : ∀ a, ¬ (0xF00 ≤ a ∧ a ≤ 0xFFF) → m'.memory.byteAt a = m.memory.byteAt a

theorem alike_on (d : Drawing) (m : Machine) : Alike m (d.on m).machine where
  reg_eq _ hj := Machine.reg_drawSprite { m with index := d.index } d.x d.y d.height hj
  byte_eq _ ha := Machine.byteAt_drawSprite { m with index := d.index } d.x d.y d.height ha

section Alike

variable {d : Drawing} {m m' : Machine}

/-- A drawing covers the same pixels, whatever was drawn before it. -/
theorem Apart.pixels_eq (hd : d.Apart) (h : Alike m m') : d.pixels m' = d.pixels m := by
  have hrows : d.rows m' = d.rows m := by
    apply List.map_congr_left
    intro r hr
    exact h.byte_eq _ (hd.outside r (List.mem_range.mp hr))
  rw [pixels, pixels, hrows, h.reg_eq d.x hd.x_ne, h.reg_eq d.y hd.y_ne]

theorem Apart.covers_eq (hd : d.Apart) (h : Alike m m') (i : Nat) :
    d.covers m' i = d.covers m i := by
  rw [covers, covers, hd.pixels_eq h]

/-- What a drawing covers looks the other way round after it. -/
theorem meets_on (hd : d.Apart) (lit : Bool) :
    d.Meets (d.on m).machine lit ↔ d.Meets m (!lit) := by
  rw [← exists_mem_pixels_iff, ← exists_mem_pixels_iff, hd.pixels_eq (alike_on d m)]
  refine exists_congr fun i => and_congr_right fun hi => ?_
  have hcovers : d.covers m i = true := decide_eq_true hi
  rw [pixel_on hd.inside, hcovers, Bool.xor_true]
  exact Bool.not_eq_eq_eq_not

end Alike

end Drawing

namespace Machine

open Drawing

/-- The machine after drawing one sprite after the other. -/
def drawAll (m : Machine) : List Drawing → Machine
  | [] => m
  | d :: rest => (d.on m).machine.drawAll rest

/-- **Drawings count by their parity**: a pixel is inverted if an odd number of drawings cover it. -/
theorem pixel_drawAll (m : Machine) {ds : List Drawing} (h : ∀ d ∈ ds, d.Apart) (i : Nat) :
    (m.drawAll ds).memory.pixel i =
      (m.memory.pixel i ^^ decide (ds.countP (fun d => d.covers m i) % 2 = 1)) := by
  induction ds generalizing m with
  | nil => simp [drawAll]
  | cons d ds ih =>
    obtain ⟨hd, hrest⟩ := List.forall_mem_cons.mp h
    have hcount : ds.countP (fun e => e.covers (d.on m).machine i) =
        ds.countP (fun e => e.covers m i) := by
      apply List.countP_congr
      intro e he
      rw [(hrest e he).covers_eq (alike_on d m)]
    rw [drawAll, ih _ hrest, pixel_on hd.inside, hcount, List.countP_cons, Bool.xor_assoc]
    congr 1
    -- One more drawing over the pixel turns the parity around.
    cases d.covers m i with
    | false => simp
    | true =>
      rw [Bool.true_xor, ← decide_not, decide_eq_decide]
      simp only [if_true]
      omega

/-- Drawings whose numbers have the same parity at every pixel leave the same frame. -/
theorem frame_drawAll_congr (m : Machine) {ds ds' : List Drawing} (h : ∀ d ∈ ds, d.Apart)
    (h' : ∀ d ∈ ds', d.Apart)
    (hparity : ∀ i, ds'.countP (fun d => d.covers m i) % 2 = ds.countP (fun d => d.covers m i) % 2) :
    (m.drawAll ds').frame = (m.drawAll ds).frame := by
  apply Memory.frame_ext
  intro i
  rw [pixel_drawAll m h, pixel_drawAll m h', hparity]

/-- What a drawing does that is done twice in a row. -/
structure DrawnTwice (m : Machine) (d : Drawing) : Prop where
  frame_eq : (d.on (d.on m).machine).machine.frame = m.frame
  /-- The first drawing collides with what was lit. -/
  first_iff : ((d.on m).machine.reg 0xF = 1 ↔ d.Meets m true) ∧
    ((d.on m).machine.reg 0xF = 0 ↔ ¬ d.Meets m true)
  /-- The second collides with what the first has lit. -/
  second_iff : ((d.on (d.on m).machine).machine.reg 0xF = 1 ↔ d.Meets m false) ∧
    ((d.on (d.on m).machine).machine.reg 0xF = 0 ↔ ¬ d.Meets m false)

theorem drawnTwice (m : Machine) {d : Drawing} (h : d.Apart) : m.DrawnTwice d where
  frame_eq := by
    show (m.drawAll [d, d]).frame = (m.drawAll []).frame
    refine frame_drawAll_congr m ?_ ?_ fun i => ?_
    · simp
    · simpa using h
    · cases hd : d.covers m i with
      | false => simp [hd]
      | true => simp [hd]
  first_iff := flag_on_iff h.inside
  second_iff := by
    have hmeets : d.Meets (d.on m).machine true ↔ d.Meets m false := meets_on h true
    rw [← hmeets]
    exact flag_on_iff h.inside

/-- Sprites can be drawn in any order, and twice is as good as not at all. -/
structure Commutes (m : Machine) (ds : List Drawing) : Prop where
  /-- All of them are drawn. -/
  done : ∀ before d after, ds = before ++ d :: after →
    (d.on (m.drawAll before)).result = .ok .next
  perm_eq : ∀ ds', ds'.Perm ds → (m.drawAll ds').frame = (m.drawAll ds).frame
  /-- A drawing may be put in twice, anywhere. -/
  twice_eq : ∀ d ds', d.Apart → ds'.Perm (d :: d :: ds) →
    (m.drawAll ds').frame = (m.drawAll ds).frame
  drawnTwice : ∀ d, d.Apart → m.DrawnTwice d

/-- **Drawings commute and cancel**, as long as they have no part in what drawings change. -/
theorem drawAll_commutes (m : Machine) (ds : List Drawing) (h : ∀ d ∈ ds, d.Apart) :
    m.Commutes ds where
  done before d after hsplit := by
    subst hsplit
    exact result_on (h d (List.mem_append_right _ List.mem_cons_self)).inside
  perm_eq ds' hperm := by
    refine frame_drawAll_congr m h (fun d hd => h d (hperm.mem_iff.mp hd)) fun i => ?_
    rw [hperm.countP_eq]
  twice_eq d ds' hd hperm := by
    have hall : ∀ e ∈ d :: d :: ds, e.Apart :=
      List.forall_mem_cons.mpr ⟨hd, List.forall_mem_cons.mpr ⟨hd, h⟩⟩
    refine frame_drawAll_congr m h (fun e he => hall e (hperm.mem_iff.mp he)) fun i => ?_
    rw [hperm.countP_eq, List.countP_cons, List.countP_cons]
    omega
  drawnTwice _ hd := m.drawnTwice hd

/-- Two digits that overlap and wrap around in the corner of the frame, the first of them again, rows
that end where the frame starts, and no rows at the very end of memory. -/
def overlapping : List Drawing :=
  [⟨0, 0, 1, 5⟩, ⟨5, 1, 0, 5⟩, ⟨0, 0, 1, 5⟩, ⟨0xEF1, 0, 0, 15⟩, ⟨0x1000, 1, 1, 0⟩]

theorem drawAll_commutes_overlapping :
    (∀ d ∈ overlapping, d.Apart) ∧
      (((fresh 0).setReg 0 62).setReg 1 30).Commutes overlapping := by
  have h : ∀ d ∈ overlapping, d.Apart := by decide
  exact ⟨h, drawAll_commutes _ overlapping h⟩

end Machine

end Chip8
