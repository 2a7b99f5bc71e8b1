import Chip8.Memory.Access
import Chip8.Proofs.Listings
import Chip8.Proofs.Overlays

/-!
# Memory as a store of bytes

Memory is written in four ways: bytes at an address, one value throughout a
range, bytes from an offset of the frame on, and a program image.  All four
write to the same bytes.  A write for which there is no room does nothing; any
other leaves its bytes behind.  So what is read, in whatever way, is what was
written last, or what memory started with.

Whether a range can be accessed is decided by its end alone.  The end of a range
is a sum, and that sum has to be a 64-bit number: a range within memory is
accessed, and one that leaves memory is refused by the fault that names it, but
only as long as its end can be computed at all.

## Main definitions

* `Write`: what can be written, with its room, its place and its bytes
* `Memory.store`, `Memory.storeAll`: memory after writes
* `Memory.lastWritten`: the byte that should be found at an address
* `Memory.Bounded`: how an access to a range should end
* `Memory.ByteStore`: memory gives back what was written

## Main results

* `Memory.store_eq`: the four ways of writing come to one
* `Memory.byteAt_storeAll`: what was written last is what is there
* `Memory.bounded_iff_endFits`: an access ends as it should exactly if the end of
  its range is a 64-bit number
* `Memory.byteStore`: memory is a store of bytes
-/

namespace Chip8

/-- Something to be written to memory. -/
inductive Write
  /-- Some bytes at an address. -/
  | bytes (addr : UInt16) (data : List UInt8)
  /-- One value in each byte of a range. -/
  | fill (addr : UInt16) (len : UInt64) (value : UInt8)
  /-- Some bytes from an offset of the frame on. -/
  | frame (offset : Nat) (data : List UInt8)
  /-- A program image. -/
  | program (image : Image)

namespace Write

/-- There is room for a write where it goes. -/
def Fits : Write → Prop
  | bytes addr data => addr.toNat + data.length ≤ 0x1000
  | fill addr len _ => addr.toNat + len.toNat ≤ 0x1000
  | frame offset data => offset + data.length ≤ 0x100
  | program image => image.Loadable

instance : DecidablePred Fits
  | bytes _ _ => inferInstanceAs (Decidable (_ ≤ _))
  | fill _ _ _ => inferInstanceAs (Decidable (_ ≤ _))
  | frame _ _ => inferInstanceAs (Decidable (_ ≤ _))
  | program image => inferInstanceAs (Decidable image.Loadable)

/-- The address of the first byte written. -/
def start : Write → Nat
  | bytes addr _ | fill addr _ _ => addr.toNat
  | frame offset _ => 0xF00 + offset
  | program _ => 0x200

/-- The bytes written. -/
def data : Write → List UInt8
  | bytes _ data | frame _ data => data
  | fill _ len value => List.replicate len.toNat value
  | program image => image.bytes

/-- The byte that a write leaves at an address, if there is room for it and it reaches that far. -/
def byteAt? (w : Write) (a : Nat) : Option UInt8 :=
  if w.Fits then Memory.placed? w.start w.data a else none

theorem end_le {w : Write} (h : w.Fits) : w.start + w.data.length ≤ Memory.size := by
  cases w with
  | bytes addr data => exact h
  | fill addr len value =>
    rw [data, List.length_replicate]
    exact h
  | frame offset data =>
    have hroom : offset + data.length ≤ 256 := h
    show 3840 + offset + data.length ≤ 4096
    omega
  | program image => exact Image.Loadable.end_le h

end Write

namespace Memory

/-! ## Writing -/

/-- Memory after a write; it stays as it is if the write is refused. -/
def store (m : Memory) : Write → Memory
  | .bytes addr data => (m.write addr data).toOption.getD m
  | .fill addr len value => (m.fillRange addr len value).toOption.getD m
  | .frame offset data => (m.overlayFrame? offset data).getD m
  | .program image => m.afterLoad image

/-- Memory after one write after the other. -/
def storeAll (m : Memory) (writes : List Write) : Memory :=
  writes.foldl store m

/-- The byte that is to be found at an address of memory that was fresh before some writes: the
one written last, and if there is none a byte of the font or zero. -/
def lastWritten (writes : List Write) (a : Nat) : UInt8 :=
  (writes.reverse.findSome? (Write.byteAt? · a)).getD (font.getD a 0)

theorem endFits_of_le {addr : UInt16} {len : UInt64} (h : addr.toNat + len.toNat ≤ 0x1000) :
    EndFits addr len :=
  Nat.lt_of_le_of_lt h (by decide)

/-- **The four ways of writing come to one.** -/
theorem store_eq (m : Memory) (w : Write) :
    m.store w = if w.Fits then m.overlay w.start w.data else m := by
  by_cases h : w.Fits
  · rw [if_pos h]
    cases w with
    | bytes addr data =>
      have hwrite : m.write addr data = .ok (m.overlay addr.toNat data) := if_pos h
      rw [store, hwrite]
      rfl
    | fill addr len value =>
      have hfill : m.fill addr len.toNat value =
          .ok (m.overlay addr.toNat (List.replicate len.toNat value)) := if_pos h
      rw [store, fillRange, if_pos (endFits_of_le h), hfill]
      rfl
    | frame offset data =>
      have hframe : m.overlayFrame? offset data = some (m.overlay (0xF00 + offset) data) := if_pos h
      rw [store, hframe]
      rfl
    | program image => exact afterLoad_of_loadable m h
  · rw [if_neg h]
    cases w with
    | bytes addr data =>
      have hwrite : m.write addr data = .error (.addressOutOfBounds addr data.length) := if_neg h
      rw [store, hwrite]
      rfl
    | fill addr len value =>
      have hfill : m.fill addr len.toNat value = .error (.addressOutOfBounds addr len.toNat) :=
        if_neg h
      -- Refused either way, whether its end is a 64-bit number or not.
      rw [store, fillRange, hfill]
      split <;> rfl
    | frame offset data =>
      have hframe : m.overlayFrame? offset data = none := if_neg h
      rw [store, hframe]
      rfl
    | program image => exact afterLoad_of_not_loadable m h

theorem byteAt_store (m : Memory) (w : Write) (a : Nat) :
    (m.store w).byteAt a = (w.byteAt? a).getD (m.byteAt a) := by
  rw [store_eq, Write.byteAt?]
  by_cases h : w.Fits
  · rw [if_pos h, if_pos h, byteAt_overlay_eq m (Write.end_le h)]
  · rw [if_neg h, if_neg h]
    rfl

/-- **What was written last is what is there.** -/
theorem byteAt_storeAll (writes : List Write) (a : Nat) :
    (fresh.storeAll writes).byteAt a = lastWritten writes a := by
  rw [lastWritten, ← byteAt_fresh_eq]
  exact byteAt_foldl (fun m w => byteAt_store m w a) fresh writes

/-! ## Access to ranges -/

/-- An access to a range ends as it should: it succeeds if the range ends within memory, and
otherwise it is the fault that names where the range starts and how long it is. -/
structure Bounded {α : Type} (addr : UInt16) (len : Nat) (answer : Except AccessError α) : Prop where
  succeeds : addr.toNat + len ≤ 0x1000 → ∃ x, answer = .ok x
  faults : 0x1000 < addr.toNat + len → answer = .error (.fault (.addressOutOfBounds addr len))

theorem bounded_of_checked {α : Type} {addr : UInt16} {len : Nat} {x : α}
    {answer : Except Fault α}
    (h : answer = if addr.toNat + len ≤ size then .ok x else .error (.addressOutOfBounds addr len)) :
    Bounded addr len (answer.mapError .fault) where
  succeeds hin := by
    have hsize : addr.toNat + len ≤ size := hin
    rw [h, if_pos hsize]
    exact ⟨x, rfl⟩
  faults hout := by
    have hsize : ¬ addr.toNat + len ≤ size := Nat.not_le_of_lt hout
    rw [h, if_neg hsize]
    rfl

/-- **An access ends as it should exactly if the end of its range is a 64-bit number.** -/
theorem bounded_iff_endFits {α : Type} {addr : UInt16} {len : UInt64} {x : α}
    {checked : Except Fault α} {answer : Except AccessError α}
    (hchecked : checked = if addr.toNat + len.toNat ≤ size then .ok x
      else .error (.addressOutOfBounds addr len.toNat))
    (hanswer : answer = if EndFits addr len then checked.mapError .fault else .error .endTooLarge) :
    Bounded addr len.toNat answer ↔ EndFits addr len := by
  constructor
  · intro h
    -- A range whose end is none lies beyond the end of memory, and should be a fault.
    refine Decidable.byContradiction fun hend => ?_
    have hout : 0x1000 < addr.toNat + len.toNat := by
      apply Nat.lt_of_not_le
      intro hle
      exact hend (endFits_of_le hle)
    have hfault := h.faults hout
    rw [hanswer, if_neg hend] at hfault
    cases hfault
  · intro hend
    rw [hanswer, if_pos hend]
    exact bounded_of_checked hchecked

variable (m : Memory) {addr : UInt16} {len : UInt64}

theorem readRange_of_le (h : addr.toNat + len.toNat ≤ 0x1000) :
    m.readRange addr len = .ok (m.slice addr.toNat len.toNat) := by
  have hread : m.read addr len.toNat = .ok (m.slice addr.toNat len.toNat) := if_pos h
  rw [readRange, if_pos (endFits_of_le h), hread]
  rfl

theorem readRange_of_lt (hend : EndFits addr len) (h : 0x1000 < addr.toNat + len.toNat) :
    m.readRange addr len = .error (.fault (.addressOutOfBounds addr len.toNat)) := by
  have hread : m.read addr len.toNat = .error (.addressOutOfBounds addr len.toNat) :=
    if_neg (Nat.not_le_of_lt h)
  rw [readRange, if_pos hend, hread]
  rfl

theorem readRange_eq_ok_iff (bytes : List UInt8) :
    m.readRange addr len = .ok bytes ↔
      addr.toNat + len.toNat ≤ 0x1000 ∧ m.slice addr.toNat len.toNat = bytes := by
  by_cases h : addr.toNat + len.toNat ≤ 0x1000
  · rw [readRange_of_le m h, Except.ok.injEq]
    exact (and_iff_right h).symm
  · refine iff_of_false ?_ fun hc => h hc.1
    by_cases hend : EndFits addr len
    · rw [readRange_of_lt m hend (Nat.lt_of_not_le h)]
      exact nofun
    · rw [readRange, if_neg hend]
      exact nofun

/-- The end of a range of up to 65536 bytes is always a 64-bit number. -/
theorem endFits_of_len_le (h : len.toNat ≤ 0x10000) : EndFits addr len := by
  have haddr := addr.toNat_lt
  show addr.toNat + len.toNat < 18446744073709551616
  omega

theorem slice_one (a : Nat) : m.slice a 1 = [m.byteAt a] :=
  rfl

theorem slice_two (a : Nat) : m.slice a 2 = [m.byteAt a, m.byteAt (a + 1)] :=
  rfl

/-- A byte is a range of length one. -/
theorem readRange_one (addr : UInt16) :
    m.readRange addr 1 = ((m.byte addr).map fun b => [b]).mapError .fault := by
  have hread : m.readRange addr 1 = (m.read addr 1).mapError .fault :=
    if_pos (endFits_of_len_le (by decide))
  rw [hread, read, byte]
  by_cases h : addr.toNat + 1 ≤ size
  · rw [if_pos h, if_pos h, slice_one]
    rfl
  · rw [if_neg h, if_neg h]
    rfl

/-- A word is a range of length two, its higher byte first. -/
theorem readRange_two (addr : UInt16) :
    m.readRange addr 2 = ((m.word addr).map fun w => [w.high, w.byte]).mapError .fault := by
  have hread : m.readRange addr 2 = (m.read addr 2).mapError .fault :=
    if_pos (endFits_of_len_le (by decide))
  rw [hread, read, word]
  by_cases h : addr.toNat + 2 ≤ size
  · rw [if_pos h, if_pos h, slice_two]
    simp only [Except.map, Word.high_ofBytes, Word.byte_ofBytes]
  · rw [if_neg h, if_neg h]
    rfl

/-! ## The store -/

/-- Memory that was fresh before some writes gives back what was written. -/
structure ByteStore (writes : List Write) : Prop where
  /-- Ranges can be read and filled as they should, if only their ends can be computed; -/
  read_bounded_iff : ∀ addr len, Bounded addr len.toNat (m.readRange addr len) ↔ EndFits addr len
  fill_bounded_iff : ∀ addr len value,
    Bounded addr len.toNat (m.fillRange addr len value) ↔ EndFits addr len
  /-- and there are never too many bytes to write for that. -/
  write_bounded : ∀ addr data, Bounded addr data.length ((m.write addr data).mapError .fault)
  /-- What is refused changes nothing. -/
  refused_eq : ∀ w, ¬ w.Fits → m.store w = m
  /-- Each byte that is read was written last. -/
  read_eq : ∀ addr len bytes, m.readRange addr len = .ok bytes →
    bytes.length = len.toNat ∧
      ∀ k b, bytes[k]? = some b → b = lastWritten writes (addr.toNat + k)
  byte_agrees : ∀ addr, m.readRange addr 1 = ((m.byte addr).map fun b => [b]).mapError .fault
  word_agrees : ∀ addr,
    m.readRange addr 2 = ((m.word addr).map fun w => [w.high, w.byte]).mapError .fault
  /-- The frame is the last page of memory. -/
  frame_eq : m.readRange 0xF00 0x100 = .ok m.frame

/-- **Memory is a store of bytes**, whatever is written to it, and in whatever way; accesses end
as they should as long as the ends of their ranges can be computed. -/
theorem byteStore (writes : List Write) : (fresh.storeAll writes).ByteStore writes where
  read_bounded_iff _ _ := bounded_iff_endFits rfl rfl
  fill_bounded_iff _ _ _ := bounded_iff_endFits rfl rfl
  write_bounded _ _ := bounded_of_checked rfl
  refused_eq w h := by
    rw [store_eq, if_neg h]
  read_eq addr len bytes h := by
    obtain ⟨-, rfl⟩ := (readRange_eq_ok_iff _ bytes).mp h
    refine ⟨length_slice .., ?_⟩
    intro k b hb
    have hk : k < len.toNat := by
      have hlt := (List.getElem?_eq_some_iff.mp hb).1
      rwa [length_slice] at hlt
    rw [getElem?_slice _ _ hk, byteAt_storeAll] at hb
    exact (Option.some.inj hb).symm
  byte_agrees := readRange_one _
  word_agrees := readRange_two _
  frame_eq := readRange_of_le _ (by decide)

/-- A range whose end is no 64-bit number is not refused as it should be. -/
theorem not_bounded_readRange_max :
    (fresh.readRange 1 0xFFFFFFFFFFFFFFFF) = .error .endTooLarge ∧
      ¬ Bounded 1 (0xFFFFFFFFFFFFFFFF : UInt64).toNat (fresh.readRange 1 0xFFFFFFFFFFFFFFFF) := by
  have hend : ¬ EndFits 1 0xFFFFFFFFFFFFFFFF := by decide
  refine ⟨if_neg hend, fun hbounded => ?_⟩
  exact hend ((bounded_iff_endFits rfl rfl).mp hbounded)

end Memory

end Chip8
