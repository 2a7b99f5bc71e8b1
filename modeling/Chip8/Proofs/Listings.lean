import Chip8.Instruction.Listing
import Chip8.Instruction.Reading
import Chip8.Proofs.FaultRules
import Chip8.Proofs.Overlays
import Mathlib.Data.List.Basic

/-!
# Listings

A listing is made from an image alone, before any machine has seen it.  It cuts
the image into words and counts addresses on by itself, while a machine copies
the image into its memory and fetches words from there; this module shows that
the two come to the same, up to the last word of an image of an odd length,
whose low byte the listing makes up and the machine finds in memory.

An image that is too large is not loaded at all.  Its listing is that of the
part that would have fit.

What is printed of an instruction tells its word.  So the printed instructions
tell the image, as far as it fits and but for a last zero.

## Main definitions

* `Listing.Covers`: the entries of a listing, by number
* `Listing.Entry.HeldBy`: a machine finds in memory what an entry says
* `Listing.Foretells`: a listing against a machine that is given the image
* `Word.ofText`: the word whose instruction is printed so
* `Listing.texts`: the printed instructions of an image

## Main results

* `Listing.covers_ofImage`: what is listed
* `Listing.heldBy_of_mem`: what is listed is what a machine runs
* `Listing.ofImage_foretells`: a listing foretells what a machine will find
* `Listing.texts_lossless`: nothing is lost in print
-/

namespace Chip8

namespace Listing

/-! ## The words of an image -/

theorem length_words (bytes : List UInt8) : (words bytes).length = (bytes.length + 1) / 2 := by
  induction bytes using words.induct with
  | case1 hi lo r ih =>
    rw [words, List.length_cons, ih, List.length_cons, List.length_cons]
    omega
  | case2 hi => simp [words]
  | case3 => rfl

/-- The word number `k` consists of the bytes number `2 * k` and `2 * k + 1`, the latter being zero
if there is none. -/
theorem getElem?_words {bytes : List UInt8} {k : Nat} (h : 2 * k < bytes.length) :
    (words bytes)[k]? = some (Word.ofBytes (bytes.getD (2 * k) 0) (bytes.getD (2 * k + 1) 0)) := by
  induction bytes using words.induct generalizing k with
  | case1 hi lo r ih =>
    cases k with
    | zero => rfl
    | succ k =>
      have hr : 2 * k < r.length := by
        simp only [List.length_cons] at h
        omega
      exact ih hr
  | case2 hi =>
    obtain rfl : k = 0 := by
      simp only [List.length_singleton] at h
      omega
    rfl
  | case3 => cases h

theorem getD_take {bytes : List UInt8} {j n : Nat} (h : j < n) :
    (bytes.take n).getD j 0 = bytes.getD j 0 := by
  rw [List.getD_eq_getElem?_getD, List.getElem?_take_of_lt h, ← List.getD_eq_getElem?_getD]

/-! ## What is listed -/

/-- The entries of the listing of an image. -/
structure Covers (image : List UInt8) (listing : List Entry) : Prop where
  length_eq : listing.length = (min image.length 3584 + 1) / 2
  address_eq : ∀ k e, listing[k]? = some e → e.address.toNat = 0x200 + 2 * k
  address_le : ∀ e ∈ listing, e.address.toNat ≤ 0xFFE
  /-- Beyond the end of the image there are zeros. -/
  word_eq : ∀ k e, listing[k]? = some e →
    e.word.toNat = (image.getD (2 * k) 0).toNat * 0x100 + (image.getD (2 * k + 1) 0).toNat
  instruction_eq : ∀ e ∈ listing, e.instruction = Instruction.decode e.word

theorem length_ofImage (image : List UInt8) :
    (ofImage image).length = (min image.length 3584 + 1) / 2 := by
  rw [ofImage, List.length_mapIdx, length_words, List.length_take, Nat.min_comm]
  rfl

/-- The entry number `k`. -/
theorem getElem?_ofImage {image : List UInt8} {k : Nat} (h : k < (ofImage image).length) :
    (ofImage image)[k]? =
      some (entry k (Word.ofBytes (image.getD (2 * k) 0) (image.getD (2 * k + 1) 0))) := by
  rw [length_ofImage] at h
  have hlen : (image.take Memory.maxImageSize).length = min 3584 image.length := List.length_take
  have hk : 2 * k < (image.take Memory.maxImageSize).length := by omega
  -- As many bytes fit as two go into, so if one byte of a word fits so does the other.
  have hfits : 2 * k + 1 < Memory.maxImageSize := by
    show 2 * k + 1 < 3584
    omega
  rw [ofImage, List.getElem?_mapIdx, getElem?_words hk, getD_take (Nat.lt_of_succ_lt hfits),
    getD_take hfits]
  rfl

/-- Every entry is the one of its number, and lies where the words of the image do. -/
theorem eq_entry {image : List UInt8} {k : Nat} {e : Entry} (h : (ofImage image)[k]? = some e) :
    e = entry k (Word.ofBytes (image.getD (2 * k) 0) (image.getD (2 * k + 1) 0)) ∧
      2 * k < min image.length 3584 := by
  obtain ⟨hk, -⟩ := List.getElem?_eq_some_iff.mp h
  rw [getElem?_ofImage hk] at h
  rw [length_ofImage] at hk
  exact ⟨(Option.some.inj h).symm, by omega⟩

theorem toNat_address {k : Nat} (h : 2 * k < 3584) (w : Word) :
    (entry k w).address.toNat = 0x200 + 2 * k := by
  show (512 + 2 * k) % 65536 = 512 + 2 * k
  omega

/-- **What is listed** is the part of an image that fits, word by word from where programs
start. -/
theorem covers_ofImage (image : List UInt8) : Covers image (ofImage image) where
  length_eq := length_ofImage image
  address_eq k e h := by
    obtain ⟨rfl, hk⟩ := eq_entry h
    exact toNat_address (by omega) _
  address_le e h := by
    obtain ⟨k, h⟩ := List.mem_iff_getElem?.mp h
    obtain ⟨rfl, hk⟩ := eq_entry h
    rw [toNat_address (by omega)]
    omega
  word_eq k e h := by
    obtain ⟨rfl, -⟩ := eq_entry h
    exact Machine.toNat_ofBytes _ _
  instruction_eq e h := by
    obtain ⟨k, h⟩ := List.mem_iff_getElem?.mp h
    obtain ⟨rfl, -⟩ := eq_entry h
    rfl

theorem ofImage_take (image : List UInt8) : ofImage (image.take 3584) = ofImage image := by
  rw [ofImage, List.take_take]
  rfl

end Listing

/-! ## An image in memory -/

namespace Memory

/-- Beyond the font, a machine starts with zeros. -/
theorem byteAt_fresh {a : Nat} (h : programStart ≤ a) : fresh.byteAt a = 0 := by
  have hfont : font.length ≤ a := Nat.le_trans (by decide) h
  rw [byteAt_fresh_eq, List.getD_eq_getElem?_getD, List.getElem?_eq_none hfont]
  rfl

/-- The byte number `j` of an image, and zeros after its end. -/
theorem byteAt_fresh_overlay {image : List UInt8} (h : image.length ≤ maxImageSize) (j : Nat) :
    (fresh.overlay programStart image).byteAt (programStart + j) = image.getD j 0 := by
  have hfits : programStart + image.length ≤ size := Nat.add_le_of_le_sub' (by decide) h
  rw [byteAt_overlay_eq fresh hfits, placed?_add, byteAt_fresh (Nat.le_add_right _ j),
    List.getD_eq_getElem?_getD]

end Memory

namespace Listing

/-- What an entry says is found in memory: the word is at the address, and the instruction is the
one that a step carries out with the program counter there. -/
structure Entry.HeldBy (e : Entry) (memory : Memory) : Prop where
  word_eq : memory.word e.address = .ok e.word
  step_eq : ∀ m : Machine, m.memory = memory → m.pc = e.address →
    m.fetch = .ok e.word ∧ m.step = (m.advance.execute e.instruction).settle m.pc

theorem Entry.heldBy_of_word {e : Entry} {memory : Memory} (heven : e.address.toNat % 2 = 0)
    (hword : memory.word e.address = .ok e.word)
    (hinstruction : e.instruction = Instruction.decode e.word) : e.HeldBy memory where
  word_eq := hword
  step_eq := by
    rintro m rfl hpc
    have hfetch : m.fetch = .ok e.word := by
      rw [← hpc] at heven hword
      rw [Machine.fetch, if_pos ((Machine.pc_even_iff m).mpr heven), hword]
    rw [hinstruction]
    exact ⟨hfetch, Machine.step_of_word hfetch⟩

/-- **What is listed is what a machine runs** that has the image in memory, be its length even or
odd. -/
theorem heldBy_of_mem {image : List UInt8} (h : image.length ≤ Memory.maxImageSize) {e : Entry}
    (he : e ∈ ofImage image) :
    e.HeldBy (Memory.fresh.overlay Memory.programStart image) := by
  obtain ⟨k, hk⟩ := List.mem_iff_getElem?.mp he
  obtain ⟨rfl, hlt⟩ := eq_entry hk
  have haddress := toNat_address (k := k) (by omega)
    (Word.ofBytes (image.getD (2 * k) 0) (image.getD (2 * k + 1) 0))
  refine Entry.heldBy_of_word ?_ ?_ rfl
  · rw [haddress]
    omega
  · have hinside : 0x200 + 2 * k + 2 ≤ Memory.size := by
      show 512 + 2 * k + 2 ≤ 4096
      omega
    rw [Memory.word, haddress, if_pos hinside]
    -- Both bytes come from the image, but for the one after an odd end: that one is in memory.
    have hhigh := Memory.byteAt_fresh_overlay h (2 * k)
    have hlow := Memory.byteAt_fresh_overlay h (2 * k + 1)
    exact congrArg Except.ok (congrArg₂ Word.ofBytes hhigh hlow)

/-! ## Loading what was listed -/

/-- A listing against a machine that is switched on and given the image. -/
structure Foretells (image : List UInt8) (random : Generator) (listing : List Entry) : Prop where
  covers : Covers image listing
  take_eq : ofImage (image.take 3584) = listing
  /-- An image that fits is loaded, and what is listed is found in memory.  The byte after an odd
  end is a zero that was there before. -/
  held : image.length ≤ 3584 →
    ∃ loaded, (Machine.switchedOn random).load { bytes := image } = .ok loaded ∧
      (∀ e ∈ listing, e.HeldBy loaded.memory) ∧
      (image.length % 2 = 1 →
        (Machine.switchedOn random).memory.byteAt (0x200 + image.length) = 0 ∧
          loaded.memory.byteAt (0x200 + image.length) = 0)
  /-- An image that does not fit is refused, and listed as far as it would have fit. -/
  refused : 3584 < image.length →
    (Machine.switchedOn random).load { bytes := image } = .error (.tooLarge image.length) ∧
      listing.length = 1792

theorem load_of_le {image : List UInt8} (h : image.length ≤ Memory.maxImageSize)
    (random : Generator) :
    (Machine.switchedOn random).load { bytes := image } = .ok { Machine.switchedOn random with
      memory := Memory.fresh.overlay Memory.programStart image } := by
  have hload : Memory.fresh.load { bytes := image } =
      .ok (Memory.fresh.overlay Memory.programStart image) := if_pos h
  exact congrArg (Except.map _) hload

theorem load_of_lt {image : List UInt8} (h : Memory.maxImageSize < image.length)
    (random : Generator) :
    (Machine.switchedOn random).load { bytes := image } = .error (.tooLarge image.length) := by
  have hload : Memory.fresh.load { bytes := image } = .error (.tooLarge image.length) :=
    if_neg (Nat.not_le_of_lt h)
  exact congrArg (Except.map _) hload

/-- **A listing foretells what a machine will find** that is switched on and given the image. -/
theorem ofImage_foretells (image : List UInt8) (random : Generator) :
    Foretells image random (ofImage image) where
  covers := covers_ofImage image
  take_eq := ofImage_take image
  held h := by
    refine ⟨_, load_of_le h random, fun e he => heldBy_of_mem h he, fun _ => ⟨?_, ?_⟩⟩
    · exact Memory.byteAt_fresh (Nat.le_add_right _ _)
    · refine (Memory.byteAt_fresh_overlay h image.length).trans ?_
      rw [List.getD_eq_getElem?_getD, List.getElem?_eq_none (Nat.le_refl _)]
      rfl
  refused h := by
    refine ⟨load_of_lt h random, ?_⟩
    rw [length_ofImage]
    omega

end Listing

/-! ## What is printed -/

namespace Word

/-- The high byte. -/
def high (w : Word) : UInt8 :=
  UInt8.ofNat (w.toNat / 256)

theorem high_ofBytes (hi lo : UInt8) : high (ofBytes hi lo) = hi := by
  have hhi := hi.toNat_lt
  have hlo := lo.toNat_lt
  apply UInt8.toNat_inj.mp
  rw [high, Machine.toNat_ofBytes]
  show (hi.toNat * 256 + lo.toNat) / 256 % 256 = hi.toNat
  omega

theorem byte_ofBytes (hi lo : UInt8) : byte (ofBytes hi lo) = lo := by
  have hlo := lo.toNat_lt
  apply UInt8.toNat_inj.mp
  rw [toNat_byte, Machine.toNat_ofBytes]
  omega

/-- The word whose instruction is printed so; zero if that is so of none. -/
def ofText (text : String) : Word :=
  ((Instruction.ofText? text).map Instruction.encode).getD 0

/-- A word is recovered from what is printed of its instruction. -/
theorem ofText_text_decode (w : Word) : ofText (Instruction.decode w).text = w := by
  rw [ofText, Instruction.ofText?_text]
  exact Instruction.encode_decode w

end Word

namespace Listing

/-- The instructions of an image as they are printed, without addresses and words. -/
def texts (image : List UInt8) : List String :=
  (ofImage image).map fun e => e.instruction.text

/-- The bytes with a zero after an odd end. -/
def evenUp (bytes : List UInt8) : List UInt8 :=
  if bytes.length % 2 = 0 then bytes else bytes ++ [0]

/-- The bytes that words consist of. -/
def unwords (ws : List Word) : List UInt8 :=
  ws.flatMap fun w => [w.high, w.byte]

theorem evenUp_cons_cons (hi lo : UInt8) (r : List UInt8) :
    evenUp (hi :: lo :: r) = hi :: lo :: evenUp r := by
  have hlen : (hi :: lo :: r).length % 2 = r.length % 2 := Nat.add_mod_right r.length 2
  rw [evenUp, evenUp, hlen]
  split
  · rfl
  · rfl

/-- The words of bytes tell the bytes, but for a last zero. -/
theorem unwords_words (bytes : List UInt8) : unwords (words bytes) = evenUp bytes := by
  induction bytes using words.induct with
  | case1 hi lo r ih =>
    rw [evenUp_cons_cons, ← ih, words, unwords, List.flatMap_cons, Word.high_ofBytes,
      Word.byte_ofBytes]
    rfl
  | case2 hi =>
    rw [words, unwords, List.flatMap_singleton, Word.high_ofBytes, Word.byte_ofBytes]
    rfl
  | case3 => rfl

theorem words_evenUp (bytes : List UInt8) : words (evenUp bytes) = words bytes := by
  induction bytes using words.induct with
  | case1 hi lo r ih => rw [evenUp_cons_cons, words, words, ih]
  | case2 hi => rfl
  | case3 => rfl

theorem words_eq_iff (p q : List UInt8) : words p = words q ↔ evenUp p = evenUp q := by
  constructor
  · intro h
    rw [← unwords_words, h, unwords_words]
  · intro h
    rw [← words_evenUp, h, words_evenUp]

/-- What is printed depends on the words alone. -/
theorem texts_eq_map (image : List UInt8) :
    texts image =
      (words (image.take Memory.maxImageSize)).map fun w => (Instruction.decode w).text := by
  apply List.ext_getElem?
  intro k
  rw [texts, ofImage, List.getElem?_map, List.getElem?_mapIdx, List.getElem?_map, Option.map_map]
  rfl

/-- **Nothing is lost in print**: a word can be told from its instruction as it is printed, and so
two images are printed alike exactly if they are the same as far as they fit, but for a last
zero. -/
theorem texts_lossless :
    (∀ w, Word.ofText (Instruction.decode w).text = w) ∧
      ∀ p q, texts p = texts q ↔ evenUp (p.take 3584) = evenUp (q.take 3584) := by
  refine ⟨Word.ofText_text_decode, fun p q => ?_⟩
  have hinjective : Function.Injective fun w => (Instruction.decode w).text :=
    Function.LeftInverse.injective Word.ofText_text_decode
  rw [texts_eq_map, texts_eq_map, (List.map_injective_iff.mpr hinjective).eq_iff]
  exact words_eq_iff _ _

end Listing

end Chip8
