import Chip8.Proofs.Planes
import Mathlib.Data.List.Nodup

/-!
# The points of a plane, one by one

The points of a plane can be asked for one at a time.  All that is kept between
two questions is how many pixels have not been looked at; each question takes up
the walk over the frame where the one before left it, and goes on to the next
pixel that has the value of the plane.  A question breaks off if it comes upon a
pixel whose byte is missing.

If the bytes cover all pixels, no question breaks off.  The points come in the
order of the walk, from the last pixel to the first, and then every further
question is told that there are no more.  A pixel is a single bit, so each is in
one of the first two planes and in no other.

## Main definitions

* `Resolution.next?`, `Resolution.answers?`: asking for points
* `Resolution.Enumerates`: what asking for the points of a plane leads to
* `Resolution.Divided`: the planes of a frame

## Main results

* `Resolution.answers?_of_walk`: asking for points is walking over the plane
* `Resolution.point_eq_iff`: which pixel has which coordinates
* `Resolution.divided`: frames are divided into two planes, which are enumerated
-/

namespace Chip8

namespace Resolution

/-! ## Asking for points -/

/-- Ask for the next point of a plane, with so many pixels not looked at.  The answer is a point, or
that there are no more, with the number of pixels that are still not looked at; there is none if the
byte of a pixel is missing. -/
def next? (r : Resolution) (data : List UInt8) (value : Nat) :
    Nat → Option (Option (Int × Int) × Nat)
  | 0 => some (none, 0)
  | i + 1 =>
    match data[i / 8]? with
    | none => none
    | some b =>
      if (Packed.bit b (i % 8)).toNat = value then some (some (r.point i), i)
      else r.next? data value i

/-- Ask so many times. -/
def answers? (r : Resolution) (data : List UInt8) (value : Nat) :
    Nat → Nat → Option (List (Option (Int × Int)))
  | 0, _ => some []
  | n + 1, remaining =>
    match r.next? data value remaining with
    | none => none
    | some (answer, remaining) => (r.answers? data value n remaining).map (answer :: ·)

section Walk

variable (r : Resolution) {data : List UInt8} {value : Nat}

theorem answers?_succ_zero (n : Nat) :
    r.answers? data value (n + 1) 0 = (r.answers? data value n 0).map (none :: ·) := rfl

/-- A pixel of the plane is the answer. -/
theorem answers?_of_eq {i : Nat} {b : UInt8} (hb : data[i / 8]? = some b)
    (hvalue : (Packed.bit b (i % 8)).toNat = value) (n : Nat) :
    r.answers? data value (n + 1) (i + 1) =
      (r.answers? data value n i).map (some (r.point i) :: ·) := by
  rw [answers?, next?, hb]
  simp only [hvalue, if_true]

/-- A pixel of another plane is passed over. -/
theorem answers?_of_ne {i : Nat} {b : UInt8} (hb : data[i / 8]? = some b)
    (hvalue : (Packed.bit b (i % 8)).toNat ≠ value) (n : Nat) :
    r.answers? data value n (i + 1) = r.answers? data value n i := by
  cases n with
  | zero => rfl
  | succ n =>
    rw [answers?, next?, hb]
    simp only [hvalue, if_false]
    rw [answers?]

/-- **Asking for points is walking over the plane**: answer `k` is point `k` of the walk, and if
there is none, that there are no more. -/
theorem answers?_of_walk {remaining : Nat} {pixels : List Nat}
    (h : walk data value remaining = some pixels) (n : Nat) :
    r.answers? data value n remaining =
      some ((List.range n).map fun k => (pixels.map r.point)[k]?) := by
  -- On the pixels that are left rather than the questions: a question passes any number of them.
  induction remaining generalizing pixels n with
  | zero =>
    obtain rfl : [] = pixels := Option.some.inj h
    induction n with
    | zero => rfl
    | succ n ih =>
      rw [answers?_succ_zero, ih, List.range_succ_eq_map]
      simp [Function.comp_def]
  | succ i ih =>
    rw [walk] at h
    cases hb : data[i / 8]? with
    | none =>
      rw [hb] at h
      cases h
    | some b =>
      rw [hb] at h
      obtain ⟨rest, hrest, hpixels⟩ := Option.map_eq_some_iff.mp h
      by_cases hvalue : (Packed.bit b (i % 8)).toNat = value
      · rw [if_pos hvalue] at hpixels
        subst hpixels
        cases n with
        | zero => rfl
        | succ n =>
          rw [answers?_of_eq r hb hvalue, ih hrest, List.range_succ_eq_map]
          simp [Function.comp_def]
      · -- The answers are those of the pixels below.
        rw [if_neg hvalue] at hpixels
        subst hpixels
        rw [answers?_of_ne r hb hvalue, ih hrest]

end Walk

/-! ## Coordinates and pixels -/

/-- The number of the pixel with some coordinates, row by row. -/
def index (r : Resolution) (p : Int × Int) : Int :=
  -p.2 * r.width + p.1

section Points

variable (r : Resolution)

/-- The coordinates of a pixel tell its number. -/
theorem index_point (i : Nat) : r.index (r.point i) = i := by
  have hdiv : ((i / r.width * r.width + i % r.width : Nat) : Int) = i :=
    congrArg Nat.cast (Nat.div_add_mod' i r.width)
  rw [index, point, Int.neg_neg, ← hdiv]
  push_cast
  rfl

theorem point_injective : Function.Injective r.point := by
  intro i j hij
  have hindex := congrArg r.index hij
  rw [index_point, index_point] at hindex
  exact Int.ofNat_inj.mp hindex

/-- **Which pixel has which coordinates.** -/
theorem point_eq_iff {r : Resolution} {x : Nat} (hx : x < r.width) (y i : Nat) :
    r.point i = ((x : Int), -(y : Int)) ↔ i = y * r.width + x := by
  have hpoint : r.point (y * r.width + x) = ((x : Int), -(y : Int)) := by
    have hrow : (y * r.width + x) / r.width = y := by
      rw [Nat.mul_comm, Nat.mul_add_div (Nat.zero_lt_of_lt hx), Nat.div_eq_of_lt hx, Nat.add_zero]
    have hcolumn : (y * r.width + x) % r.width = x := by
      rw [Nat.mul_comm, Nat.mul_add_mod, Nat.mod_eq_of_lt hx]
    rw [point, hrow, hcolumn]
  rw [← hpoint]
  exact r.point_injective.eq_iff

/-- Every pixel has a row and a column. -/
theorem exists_of_lt_pixelCount {r : Resolution} {i : Nat} (hi : i < r.pixelCount) :
    ∃ x y, x < r.width ∧ y < r.height ∧ i = y * r.width + x := by
  have hwidth : 0 < r.width := Nat.pos_of_mul_pos_right (Nat.zero_lt_of_lt hi)
  exact ⟨i % r.width, i / r.width, Nat.mod_lt i hwidth, Nat.div_lt_of_lt_mul hi,
    (Nat.div_add_mod' i r.width).symm⟩

end Points

/-! ## Planes -/

/-- What asking for the points of a plane leads to. -/
structure Enumerates (r : Resolution) (data : List UInt8) (value : Nat)
    (points : List (Int × Int)) : Prop where
  plane?_eq : r.plane? data value = some points
  /-- No byte is missing, however often is asked: answer `k` is point `k`, and if there is none, that
  there are no more. -/
  answers?_eq : ∀ n, r.answers? data value n r.pixelCount =
    some ((List.range n).map fun k => points[k]?)
  /-- The points are those whose bit has the value of the plane. -/
  mem_iff : ∀ p, p ∈ points ↔ ∃ x y : Nat, x < r.width ∧ y < r.height ∧ p = ((x : Int), -(y : Int)) ∧
    ∃ b, data[(y * r.width + x) / 8]? = some b ∧
      (b.toNat.testBit (7 - (y * r.width + x) % 8)).toNat = value
  nodup : points.Nodup
  descending : points.Pairwise fun p q => r.index q < r.index p

section Planes

variable {r : Resolution} {data : List UInt8}

/-- A bit that is there, told by its byte. -/
theorem bitAt_eq_iff {i value : Nat} (hi : i < 8 * data.length) :
    (Packed.bitAt data i).toNat = value ↔
      ∃ b, data[i / 8]? = some b ∧ (b.toNat.testBit (7 - i % 8)).toNat = value := by
  have hbyte : i / 8 < data.length := by omega
  rw [Packed.bitAt, List.getD_eq_getElem?_getD, List.getElem?_eq_getElem hbyte, Option.getD_some]
  constructor
  · intro hvalue
    exact ⟨data[i / 8], rfl, hvalue⟩
  · rintro ⟨b, hb, hvalue⟩
    rw [Option.some.inj hb]
    exact hvalue

/-- The pixels of a plane in the order of the walk over it. -/
theorem pairwise_planeIndices (r : Resolution) (data : List UInt8) (value : Nat) :
    (r.planeIndices data value).reverse.Pairwise (· > ·) := by
  rw [List.pairwise_reverse, planeIndices_eq_filter]
  exact List.pairwise_lt_range.filter _

/-- **Planes are enumerated** if the bytes cover all pixels. -/
theorem enumerates_planeIndices (h : r.pixelCount ≤ 8 * data.length) (value : Nat) :
    r.Enumerates data value ((r.planeIndices data value).reverse.map r.point) where
  plane?_eq := if_pos h
  answers?_eq n := by
    refine answers?_of_walk r ?_ n
    rw [walk_of_le data value h, planeIndices_eq_filter]
  mem_iff p := by
    rw [mem_plane? (if_pos h) p]
    constructor
    · rintro ⟨i, hi, hvalue, rfl⟩
      obtain ⟨x, y, hx, hy, rfl⟩ := exists_of_lt_pixelCount hi
      exact ⟨x, y, hx, hy, (point_eq_iff hx y _).mpr rfl,
        (bitAt_eq_iff (Nat.lt_of_lt_of_le hi h)).mp hvalue⟩
    · rintro ⟨x, y, hx, hy, rfl, hvalue⟩
      have hi := lt_pixelCount hx hy
      exact ⟨_, hi, (bitAt_eq_iff (Nat.lt_of_lt_of_le hi h)).mpr hvalue,
        (point_eq_iff hx y _).mpr rfl⟩
  nodup := by
    refine List.Nodup.map r.point_injective ?_
    exact (pairwise_planeIndices r data value).imp fun hlt => Nat.ne_of_gt hlt
  descending := by
    refine List.pairwise_map.mpr ((pairwise_planeIndices r data value).imp ?_)
    intro i j hlt
    rw [index_point, index_point]
    exact Int.ofNat_lt.mpr hlt

/-- A pixel is a single bit. -/
theorem planeIndices_of_two_le (r : Resolution) (data : List UInt8) {value : Nat}
    (hvalue : 2 ≤ value) : r.planeIndices data value = [] := by
  rw [planeIndices_eq_filter, List.filter_eq_nil_iff]
  intro i _ hbit
  have hlt := (Packed.bitAt data i).toNat_lt
  have heq : (Packed.bitAt data i).toNat = value := of_decide_eq_true hbit
  omega

/-- A pixel that is not in the first plane is in the second. -/
theorem planeIndices_one (r : Resolution) (data : List UInt8) :
    r.planeIndices data 1 = (List.range r.pixelCount).filter fun i =>
      !decide ((Packed.bitAt data i).toNat = 0) := by
  rw [planeIndices_eq_filter]
  refine List.filter_congr fun i _ => ?_
  cases Packed.bitAt data i <;> rfl

/-- **The first two planes make up the frame.** -/
theorem planes_perm (r : Resolution) (data : List UInt8) :
    ((r.planeIndices data 0).reverse.map r.point ++ (r.planeIndices data 1).reverse.map r.point).Perm
      ((List.range r.pixelCount).map r.point) := by
  rw [← List.map_append]
  refine List.Perm.map r.point ?_
  -- In their own order, both are filtered from one range, by opposite conditions.
  refine ((List.reverse_perm _).append (List.reverse_perm _)).trans ?_
  rw [planeIndices_one, planeIndices_eq_filter]
  exact List.filter_append_perm _ _

/-- The planes of a frame. -/
structure Divided (r : Resolution) (data : List UInt8) : Prop where
  enumerates : ∀ value, ∃ points, r.Enumerates data value points
  enumerates_nil : ∀ value, 2 ≤ value → r.Enumerates data value []
  /-- The first two planes have nothing in common, and each pixel is in them once. -/
  parts : ∃ dark lit, r.Enumerates data 0 dark ∧ r.Enumerates data 1 lit ∧ dark.Disjoint lit ∧
    (dark ++ lit).length = r.width * r.height ∧
    ∀ x y : Nat, x < r.width → y < r.height → (dark ++ lit).count ((x : Int), -(y : Int)) = 1

/-- **Frames are divided into two planes**, and asking for the points of a plane, one by one, leads
to each of them once. -/
theorem divided (r : Resolution) (data : List UInt8)
    (h : r.width * r.height ≤ 8 * data.length) : r.Divided data where
  enumerates value := ⟨_, enumerates_planeIndices h value⟩
  enumerates_nil value hvalue := by
    have hplane := enumerates_planeIndices h value
    rwa [planeIndices_of_two_le r data hvalue] at hplane
  parts := by
    -- Together the two planes are a permutation of all pixels, and no point is there twice.
    have hperm := planes_perm r data
    have hnodup : ((List.range r.pixelCount).map r.point).Nodup :=
      List.nodup_range.map r.point_injective
    refine ⟨_, _, enumerates_planeIndices h 0, enumerates_planeIndices h 1, ?_, ?_, ?_⟩
    · exact (List.nodup_append'.mp (hperm.nodup_iff.mpr hnodup)).2.2
    · rw [hperm.length_eq, List.length_map, List.length_range, pixelCount]
    · intro x y hx hy
      rw [hperm.count_eq]
      refine List.count_eq_one_of_mem hnodup ?_
      exact List.mem_map.mpr
        ⟨_, List.mem_range.mpr (lt_pixelCount hx hy), (point_eq_iff hx y _).mpr rfl⟩

end Planes

/-- Two bytes for fifteen pixels in rows of three: rows go on from one byte to the next, and a bit is
left over. -/
theorem divided_three_by_five : 3 * 5 ≤ 8 * [0xA5, 0x3C].length ∧
    Divided { width := 3, height := 5 } [0xA5, 0x3C] :=
  ⟨by decide, divided { width := 3, height := 5 } [0xA5, 0x3C] (by decide)⟩

end Resolution

end Chip8
