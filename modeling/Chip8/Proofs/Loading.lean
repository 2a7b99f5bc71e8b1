import Chip8.Proofs.Operations
import Chip8.Proofs.Overlays

/-!
# Loading

Loading is all or nothing.  If the source of an image delivers it and there is
room for it, its bytes come to lie where programs start, and nothing else in the
machine changes: neither the font nor what an earlier and longer program left
above, nor any part but memory.  In all other cases the whole machine stays as
it is, and a source that fails is reported even if what it delivered would have
been too large.

So however often a machine is loaded, a byte of memory belongs to the latest
image that could be loaded and was long enough to reach it.

## Main definitions

* `Machine.Loads`: what loading an image does
* `Machine.Overlaid`: what loading several does

## Main results

* `Machine.performLoad_fst`, `Machine.performAll_loads`: loading changes memory only
* `Machine.byteAt_performAll_loads`: the latest image decides
* `Machine.loads_all_or_nothing`: loading does what it should
-/

namespace Chip8.Machine

variable (m : Machine)

/-! ## One image -/

theorem performLoad_of_loadable {image : Image} (h : image.Loadable) :
    m.performLoad image = ({ m with memory := m.memory.overlay 0x200 image.bytes },
      .loaded (.ok image.bytes.length)) := by
  rw [performLoad, load, Memory.load_of_loadable m.memory h]
  rfl

theorem performLoad_of_error {image : Image} {e : LoadError} (h : m.memory.load image = .error e) :
    m.performLoad image = (m, .loaded (.error e)) := by
  rw [performLoad, load, h]
  rfl

/-- Loading changes memory only. -/
theorem performLoad_fst (image : Image) :
    (m.performLoad image).1 = { m with memory := m.memory.afterLoad image } := by
  by_cases h : image.Loadable
  · rw [performLoad_of_loadable m h, Memory.afterLoad_of_loadable m.memory h]
  · obtain ⟨e, he⟩ := m.memory.exists_load_eq_error h
    rw [performLoad_of_error m he, Memory.afterLoad_of_not_loadable m.memory h]

/-- What loading an image does to a machine, and what it answers. -/
structure Loads (image : Image) : Prop where
  /-- Loading succeeds exactly if the source does not fail and the image is not too large. -/
  loaded_iff : (∃ n, (m.performLoad image).2 = .loaded (.ok n)) ↔
    image.failure = none ∧ image.bytes.length ≤ 3584
  count_eq : ∀ n, (m.performLoad image).2 = .loaded (.ok n) → n = image.bytes.length
  /-- The image lies where programs start, -/
  byteAt_image : image.Loadable → ∀ k b, image.bytes[k]? = some b →
    (m.performLoad image).1.memory.byteAt (0x200 + k) = b
  /-- and all other bytes, -/
  byteAt_other : ∀ a, a < 0x200 ∨ 0x200 + image.bytes.length ≤ a →
    (m.performLoad image).1.memory.byteAt a = m.memory.byteAt a
  /-- and all other parts of the machine are as they were. -/
  rest_eq : (m.performLoad image).1 = { m with memory := (m.performLoad image).1.memory }
  /-- A source that fails is reported whatever it has delivered. -/
  source_failed : ∀ reason, image.failure = some reason →
    m.performLoad image = (m, .loaded (.error (.source reason)))
  too_large : image.failure = none → 3584 < image.bytes.length →
    m.performLoad image = (m, .loaded (.error (.tooLarge image.bytes.length)))

theorem loads (image : Image) : m.Loads image where
  loaded_iff := by
    constructor
    · rintro ⟨n, hn⟩
      by_cases h : image.Loadable
      · exact h
      · obtain ⟨e, he⟩ := m.memory.exists_load_eq_error h
        rw [performLoad_of_error m he] at hn
        cases hn
    · intro h
      exact ⟨_, congrArg Prod.snd (performLoad_of_loadable m h)⟩
  count_eq n hn := by
    by_cases h : image.Loadable
    · rw [performLoad_of_loadable m h] at hn
      cases hn
      rfl
    · obtain ⟨e, he⟩ := m.memory.exists_load_eq_error h
      rw [performLoad_of_error m he] at hn
      cases hn
  byteAt_image h k b hb := by
    rw [performLoad_fst, Memory.byteAt_afterLoad, Image.byteAt?, if_pos h, Memory.placed?_add, hb]
    rfl
  byteAt_other a ha := by
    rw [performLoad_fst, Memory.byteAt_afterLoad, Image.byteAt?_eq_none fun _ => ha]
    rfl
  rest_eq := by
    rw [performLoad_fst]
  source_failed reason h := performLoad_of_error m (m.memory.load_of_failure h)
  too_large hsource hlen := performLoad_of_error m (m.memory.load_of_tooLarge hsource hlen)

/-! ## One image after the other -/

/-- Loading image after image changes memory only. -/
theorem performAll_loads (images : List Image) :
    m.performAll (images.map .load) = { m with memory := images.foldl Memory.afterLoad m.memory } := by
  induction images generalizing m with
  | nil => rfl
  | cons image rest ih =>
    have hfirst : (m.perform (.load image)).1 = { m with memory := m.memory.afterLoad image } :=
      performLoad_fst m image
    rw [List.map_cons, performAll_cons, ih, hfirst]
    rfl

/-- **The latest image decides**, of those that can be loaded and reach an address. -/
theorem byteAt_performAll_loads (images : List Image) (a : Nat) :
    (m.performAll (images.map .load)).memory.byteAt a =
      (images.reverse.findSome? (Image.byteAt? · a)).getD (m.memory.byteAt a) := by
  rw [performAll_loads]
  exact Memory.byteAt_foldl (fun memory image => memory.byteAt_afterLoad image a) m.memory images

/-- What loading one image after the other does to a machine. -/
structure Overlaid (images : List Image) : Prop where
  rest_eq : m.performAll (images.map .load) =
    { m with memory := (m.performAll (images.map .load)).memory }
  /-- A byte belongs to the latest image that could be loaded and is long enough to cover it. -/
  byteAt_latest : ∀ earlier image later k b, images = earlier ++ image :: later →
    image.Loadable → image.bytes[k]? = some b →
    (∀ next ∈ later, next.Loadable → next.bytes.length ≤ k) →
    (m.performAll (images.map .load)).memory.byteAt (0x200 + k) = b
  /-- A byte that no such image covers is as it was. -/
  byteAt_uncovered : ∀ a,
    (∀ image ∈ images, image.Loadable → a < 0x200 ∨ 0x200 + image.bytes.length ≤ a) →
    (m.performAll (images.map .load)).memory.byteAt a = m.memory.byteAt a

theorem overlaid (images : List Image) : m.Overlaid images where
  rest_eq := by
    rw [performAll_loads]
  byteAt_latest earlier image later k b hsplit h hb hlater := by
    have hput : image.byteAt? (0x200 + k) = some b := by
      rw [Image.byteAt?, if_pos h, Memory.placed?_add, hb]
    have hnone : ∀ next ∈ later, next.byteAt? (0x200 + k) = none := by
      intro next hnext
      apply Image.byteAt?_eq_none
      intro hload
      have hshort := hlater next hnext hload
      exact .inr (Nat.add_le_add_left hshort 0x200)
    rw [byteAt_performAll_loads, hsplit,
      findSome?_of_latest (f := (Image.byteAt? · (0x200 + k))) hput hnone]
    rfl
  byteAt_uncovered a h := by
    have hnone : ∀ image ∈ images, image.byteAt? a = none := by
      intro image himage
      exact Image.byteAt?_eq_none (h image himage)
    rw [byteAt_performAll_loads, findSome?_of_none hnone]
    rfl

/-- **Loading is all or nothing, and overlays exactly the image**, whatever the machine and the
image are; and after any number of images the latest that reach an address decide. -/
theorem loads_all_or_nothing :
    (∀ (m : Machine) (image : Image), m.Loads image) ∧
      ∀ (m : Machine) (images : List Image), m.Overlaid images :=
  ⟨loads, overlaid⟩

/-- A shorter image leaves the end of a longer one, and one whose source fails leaves nothing. -/
example : ((fresh 0).performAll ([{ bytes := [1, 2, 3] }, { bytes := [9] },
    { bytes := [7, 7], failure := some "broken pipe" }].map .load)).memory.slice 0x200 4 =
      [9, 2, 3, 0] := by
  decide +kernel

end Chip8.Machine
