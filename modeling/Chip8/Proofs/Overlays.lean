import Chip8.Memory.Image

/-!
# What was written last

Whoever writes to memory puts consecutive bytes somewhere into it, or nothing at
all.  So a byte of memory is the one that the latest write left there, of all
that reached its address; and if none did, it is the byte from before the first.

An image is such a write, if its source delivers it and it is not too large.

## Main definitions

* `Memory.placed?`: the byte that consecutive bytes leave at an address
* `Image.Loadable`, `Image.byteAt?`: images that can be loaded, and the byte that
  loading one leaves at an address
* `Memory.afterLoad`: memory after an attempt to load

## Main results

* `Memory.byteAt_overlay_eq`, `Memory.byteAt_foldl`: memory after one write, and
  after one write after the other
* `Memory.slice_overlay`, `Memory.overlay_slice`: what was written is there, and
  what is there may be written
* `findSome?_of_latest`, `findSome?_of_none`: which write was the latest
-/

namespace Chip8

/-! ## The latest of a list -/

section Latest

variable {α β : Type} {f : α → Option β}

theorem findSome?_reverse_cons (x : α) (l : List α) :
    (x :: l).reverse.findSome? f = (l.reverse.findSome? f).or (f x) := by
  rw [List.reverse_cons, List.findSome?_append, List.findSome?_singleton]

/-- Seen from the end, the latest member that has a value comes first. -/
theorem findSome?_of_latest {earlier later : List α} {x : α} {b : β} (hx : f x = some b)
    (hlater : ∀ y ∈ later, f y = none) :
    (earlier ++ x :: later).reverse.findSome? f = some b := by
  have hnone : later.reverse.findSome? f = none := by
    rw [List.findSome?_eq_none_iff]
    intro y hy
    exact hlater y (List.mem_reverse.mp hy)
  rw [List.reverse_append, List.findSome?_append, findSome?_reverse_cons, hnone, hx]
  rfl

theorem findSome?_of_none {l : List α} (h : ∀ y ∈ l, f y = none) :
    l.reverse.findSome? f = none := by
  rw [List.findSome?_eq_none_iff]
  intro y hy
  exact h y (List.mem_reverse.mp hy)

end Latest

namespace Memory

/-! ## Writing once, and again and again -/

/-- The byte that comes to lie at an address if consecutive bytes are put from `start` on. -/
def placed? (start : Nat) (data : List UInt8) (a : Nat) : Option UInt8 :=
  if start ≤ a then data[a - start]? else none

variable {start a : Nat} {data : List UInt8}

theorem placed?_of_le (h : start ≤ a) : placed? start data a = data[a - start]? :=
  if_pos h

theorem placed?_add (start : Nat) (data : List UInt8) (k : Nat) :
    placed? start data (start + k) = data[k]? := by
  rw [placed?_of_le (Nat.le_add_right start k), Nat.add_sub_cancel_left]

theorem placed?_eq_none (h : ¬ (start ≤ a ∧ a < start + data.length)) :
    placed? start data a = none := by
  unfold placed?
  split
  · next hle =>
    apply List.getElem?_eq_none
    omega
  · rfl

/-- **One write** leaves its bytes where it put them, and all others as they were. -/
theorem byteAt_overlay_eq (m : Memory) (h : start + data.length ≤ size) (a : Nat) :
    (m.overlay start data).byteAt a = (placed? start data a).getD (m.byteAt a) := by
  rw [byteAt_overlay m start a data h]
  by_cases hin : start ≤ a ∧ a < start + data.length
  · obtain ⟨k, rfl⟩ := Nat.exists_eq_add_of_le hin.1
    have hk : k < data.length := by omega
    rw [if_pos hin, placed?_add, Nat.add_sub_cancel_left, List.getD_eq_getElem?_getD,
      List.getElem?_eq_getElem hk]
    rfl
  · rw [if_neg hin, placed?_eq_none hin]
    rfl

theorem byteAt_zero (a : Nat) : zero.byteAt a = 0 := by
  unfold byteAt zero
  split
  · exact Vector.getElem_replicate _
  · rfl

/-- Memory starts with the font at its beginning, and zeros everywhere else. -/
theorem byteAt_fresh_eq (a : Nat) : fresh.byteAt a = font.getD a 0 := by
  have hplaced : placed? fontStart font a = font[a]? := placed?_of_le (Nat.zero_le a)
  rw [fresh, byteAt_overlay_eq zero (by decide), byteAt_zero, hplaced, List.getD_eq_getElem?_getD]

/-- **One write after the other**: the latest that reached an address decides. -/
theorem byteAt_foldl {ω : Type} {write : Memory → ω → Memory} {put? : ω → Option UInt8}
    (hput : ∀ m w, (write m w).byteAt a = (put? w).getD (m.byteAt a)) (m : Memory)
    (writes : List ω) :
    (writes.foldl write m).byteAt a = (writes.reverse.findSome? put?).getD (m.byteAt a) := by
  induction writes generalizing m with
  | nil => rfl
  | cons w rest ih =>
    rw [List.foldl_cons, ih, hput, findSome?_reverse_cons]
    -- What the rest leaves untouched is what the first write left there.
    cases rest.reverse.findSome? put? with
    | none => rfl
    | some b => rfl

/-! ## Writing and looking at the same bytes -/

theorem getElem?_slice (m : Memory) (start : Nat) {len k : Nat} (h : k < len) :
    (m.slice start len)[k]? = some (m.byteAt (start + k)) := by
  simp [slice, h]

/-- What was written is found there. -/
theorem slice_overlay (m : Memory) (h : start + data.length ≤ size) :
    (m.overlay start data).slice start data.length = data := by
  apply List.ext_getElem?
  intro k
  by_cases hk : k < data.length
  · rw [getElem?_slice _ start hk, byteAt_overlay_eq m h, placed?_add, List.getElem?_eq_getElem hk]
    rfl
  · have hle : data.length ≤ k := Nat.le_of_not_lt hk
    rw [List.getElem?_eq_none hle, List.getElem?_eq_none (by rwa [length_slice])]

/-- To write what is there already changes nothing. -/
theorem overlay_slice (m : Memory) {len : Nat} (h : start + len ≤ size) :
    m.overlay start (m.slice start len) = m := by
  have hlen : (m.slice start len).length = len := length_slice ..
  apply ext_byteAt
  intro a _
  rw [byteAt_overlay_eq m (by rwa [hlen])]
  by_cases hin : start ≤ a ∧ a < start + len
  · obtain ⟨k, rfl⟩ := Nat.exists_eq_add_of_le hin.1
    rw [placed?_add, getElem?_slice m start (by omega)]
    rfl
  · rw [placed?_eq_none (by rwa [hlen])]
    rfl

end Memory

/-! ## Images -/

namespace Image

/-- An image can be loaded: its source delivers all of it, and it fits above the start of
programs. -/
def Loadable (image : Image) : Prop :=
  image.failure = none ∧ image.bytes.length ≤ 3584

instance (image : Image) : Decidable image.Loadable :=
  inferInstanceAs (Decidable (_ ∧ _))

/-- The byte that loading an image leaves at an address, if it can be loaded and reaches that
far. -/
def byteAt? (image : Image) (a : Nat) : Option UInt8 :=
  if image.Loadable then Memory.placed? 0x200 image.bytes a else none

variable {image : Image}

theorem Loadable.end_le (h : image.Loadable) : 0x200 + image.bytes.length ≤ Memory.size := by
  have hlen := h.2
  show 512 + image.bytes.length ≤ 4096
  omega

theorem byteAt?_of_not_loadable (h : ¬ image.Loadable) (a : Nat) : image.byteAt? a = none :=
  if_neg h

/-- Beyond its end and below the start of programs an image leaves nothing. -/
theorem byteAt?_eq_none {a : Nat} (h : image.Loadable → a < 0x200 ∨ 0x200 + image.bytes.length ≤ a) :
    image.byteAt? a = none := by
  by_cases hload : image.Loadable
  · have hout := h hload
    rw [byteAt?, if_pos hload]
    apply Memory.placed?_eq_none
    omega
  · exact byteAt?_of_not_loadable hload a

end Image

namespace Memory

variable (m : Memory) {image : Image}

theorem load_of_loadable (h : image.Loadable) :
    m.load image = .ok (m.overlay 0x200 image.bytes) := by
  obtain ⟨hsource, hlen⟩ := h
  rw [load, hsource]
  exact if_pos hlen

/-- A source that fails is reported whatever it has delivered. -/
theorem load_of_failure {reason : String} (h : image.failure = some reason) :
    m.load image = .error (.source reason) := by
  rw [load, h]

theorem load_of_tooLarge (hsource : image.failure = none) (hlen : 3584 < image.bytes.length) :
    m.load image = .error (.tooLarge image.bytes.length) := by
  rw [load, hsource]
  exact if_neg (Nat.not_le_of_lt hlen)

/-- An image that cannot be loaded has a source that fails, or it is too large. -/
theorem exists_load_eq_error (h : ¬ image.Loadable) : ∃ e, m.load image = .error e := by
  cases hsource : image.failure with
  | some reason => exact ⟨_, m.load_of_failure hsource⟩
  | none =>
    have hlen : 3584 < image.bytes.length := by
      apply Nat.lt_of_not_le
      intro hle
      exact h ⟨hsource, hle⟩
    exact ⟨_, m.load_of_tooLarge hsource hlen⟩

/-- Memory after an attempt to load an image; it stays as it is if that fails. -/
def afterLoad (image : Image) : Memory :=
  (m.load image).toOption.getD m

theorem afterLoad_of_loadable (h : image.Loadable) :
    m.afterLoad image = m.overlay 0x200 image.bytes := by
  rw [afterLoad, load_of_loadable m h]
  rfl

theorem afterLoad_of_not_loadable (h : ¬ image.Loadable) : m.afterLoad image = m := by
  obtain ⟨e, he⟩ := exists_load_eq_error m h
  rw [afterLoad, he]
  rfl

theorem byteAt_afterLoad (image : Image) (a : Nat) :
    (m.afterLoad image).byteAt a = (image.byteAt? a).getD (m.byteAt a) := by
  by_cases h : image.Loadable
  · rw [afterLoad_of_loadable m h, byteAt_overlay_eq m h.end_le, Image.byteAt?, if_pos h]
  · rw [afterLoad_of_not_loadable m h, Image.byteAt?_of_not_loadable h]
    rfl

end Memory

end Chip8
