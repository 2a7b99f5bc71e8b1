import Chip8.Proofs.Control
import Chip8.Proofs.Faults

/-!
# The rules that faults break

Whether the next step faults, and how, can be read off a machine without
decoding anything: off the program counter, and then off the digits of the word
that it points at, the index register and the depth of the stack.  An odd
program counter comes first, then one that leaves no room for a word; after
that the word decides, and a word breaks one rule at most.

`Machine.Breaks` states these rules in numbers, and `step_result_iff` says that
a step faults exactly as they tell, and waits exactly if the word asks for a
key and none is down.

## Main definitions

* `Machine.Reads`: the word at the program counter
* `Accesses`: how many bytes the instruction of a word accesses
* `Machine.Breaks`: the rules

## Main results

* `fetch_eq_ok_iff`, `fetch_eq_error_iff`: which word is fetched, if any
* `accesses_iff`: the digits of a word tell what its instruction accesses
* `step_result_iff`: how a step ends
-/

namespace Chip8

/-! ## The digits of a word -/

/-- The instruction of a word accesses so many bytes where the index register points. -/
inductive Accesses (w : Word) : Nat → Prop
  /-- `Dxyn` looks at the rows of a sprite. -/
  | sprite (kind : w.toNat / 0x1000 = 0xD) : Accesses w (w.toNat % 0x10)
  /-- `Fx33` writes three digits. -/
  | decimal (kind : w.toNat / 0x1000 = 0xF) (byte : w.toNat % 0x100 = 0x33) : Accesses w 3
  /-- `Fx55` and `Fx65` move the registers up to `x`. -/
  | registers (kind : w.toNat / 0x1000 = 0xF)
      (byte : w.toNat % 0x100 = 0x55 ∨ w.toNat % 0x100 = 0x65) :
      Accesses w (w.toNat / 0x100 % 0x10 + 1)

namespace Word

theorem toNat_ofAddress {kind : Nat} (h : kind < 16) (a : Address) :
    (ofAddress kind a).toNat = kind * 0x1000 + a.val := by
  have ha := a.isLt
  show (kind * 4096 + a.val) % 65536 = _
  omega

theorem toNat_ofByte {kind : Nat} (h : kind < 16) (x : Register) (b : UInt8) :
    (ofByte kind x b).toNat = kind * 0x1000 + x.val * 0x100 + b.toNat := by
  have hx := x.isLt
  have hb := b.toNat_lt
  show (kind * 4096 + x.val * 256 + b.toNat) % 65536 = _
  omega

theorem toNat_ofFields {kind : Nat} (h : kind < 16) (x y n : Nibble) :
    (ofFields kind x y n.val).toNat = kind * 0x1000 + x.val * 0x100 + y.val * 0x10 + n.val := by
  have hx := x.isLt
  have hy := y.isLt
  have hn := n.isLt
  show (kind * 4096 + x.val * 256 + y.val * 16 + n.val) % 65536 = _
  omega

end Word

namespace Instruction

/-- How many bytes an instruction accesses where the index register points, if it does. -/
def window? : Instruction → Option Nat
  | .drw _ _ n => some n.val
  | .ldDecimal _ => some 3
  | .store x | .load x => some (x.val + 1)
  | _ => none

/-- An instruction comes from the word that stands for it. -/
theorem encode_of_decode {w : Word} {i : Instruction} (h : decode w = i) : encode i = w := by
  rw [← h]
  exact encode_decode w

theorem toNat_of_decode_byte {w : Word} {kind : Nat} {x : Register} {b : UInt8}
    (hk : kind < 16) (h : Word.ofByte kind x b = w) :
    w.toNat / 0x1000 = kind ∧ w.toNat / 0x100 % 0x10 = x.val ∧ w.toNat % 0x100 = b.toNat := by
  have hx := x.isLt
  have hb := b.toNat_lt
  rw [← h, Word.toNat_ofByte hk]
  omega

theorem decode_of_device {w : Word} (h : w.toNat / 0x1000 = 0xF) :
    decode w = decodeDevice w := by
  have hk : Word.kind w = 15 := h
  unfold decode
  rw [hk]
  rfl

theorem exists_decode_call_iff (w : Word) :
    (∃ target, decode w = .call target) ↔ w.toNat / 0x1000 = 0x2 := by
  constructor
  · rintro ⟨target, h⟩
    have ht := target.isLt
    have hw : Word.ofAddress 0x2 target = w := encode_of_decode h
    rw [← hw, Word.toNat_ofAddress (by decide)]
    omega
  · intro h
    have hk : Word.kind w = 2 := h
    refine ⟨Word.address w, ?_⟩
    unfold decode
    rw [hk]
    rfl

theorem decode_eq_ret_iff (w : Word) : decode w = .ret ↔ w.toNat = 0x00EE := by
  constructor
  · intro h
    have hw : (0x00EE : Word) = w := encode_of_decode h
    rw [← hw]
    rfl
  · intro h
    have hw : w = 0x00EE := UInt16.toNat_inj.mp h
    rw [hw]
    rfl

theorem exists_decode_ldKey_iff (w : Word) :
    (∃ x, decode w = .ldKey x) ↔ w.toNat / 0x1000 = 0xF ∧ w.toNat % 0x100 = 0x0A := by
  constructor
  · rintro ⟨x, h⟩
    obtain ⟨hk, -, hb⟩ := toNat_of_decode_byte (by decide) (encode_of_decode h)
    exact ⟨hk, hb⟩
  · rintro ⟨hk, hb⟩
    refine ⟨Word.x w, ?_⟩
    have hbyte : (Word.byte w).toNat = 0x0A := (Word.toNat_byte w).trans hb
    rw [decode_of_device hk, decodeDevice, hbyte]
    rfl

/-- The digits of a word tell what its instruction accesses. -/
theorem accesses_iff (w : Word) (len : Nat) : (decode w).window? = some len ↔ Accesses w len := by
  constructor
  · -- An instruction determines its word, so its digits can be computed from the instruction.
    intro h
    cases hi : decode w with
    | drw x y n =>
      have hw : Word.ofFields 0xD x y n.val = w := encode_of_decode hi
      rw [hi] at h
      obtain rfl : n.val = len := Option.some.inj h
      have hnat := congrArg UInt16.toNat hw
      rw [Word.toNat_ofFields (by decide)] at hnat
      have hx := x.isLt
      have hy := y.isLt
      have hn := n.isLt
      have hdigit : w.toNat % 0x10 = n.val := by omega
      rw [← hdigit]
      exact .sprite (by omega)
    | ldDecimal x =>
      rw [hi] at h
      obtain rfl : 3 = len := Option.some.inj h
      obtain ⟨hk, -, hb⟩ := toNat_of_decode_byte (by decide) (encode_of_decode hi)
      exact .decimal hk hb
    | store x =>
      rw [hi] at h
      obtain rfl : x.val + 1 = len := Option.some.inj h
      obtain ⟨hk, hx, hb⟩ := toNat_of_decode_byte (by decide) (encode_of_decode hi)
      rw [← hx]
      exact .registers hk (.inl hb)
    | load x =>
      rw [hi] at h
      obtain rfl : x.val + 1 = len := Option.some.inj h
      obtain ⟨hk, hx, hb⟩ := toNat_of_decode_byte (by decide) (encode_of_decode hi)
      rw [← hx]
      exact .registers hk (.inr hb)
    | _ =>
      rw [hi] at h
      cases h
  · intro h
    cases h with
    | sprite hk =>
      have hkind : Word.kind w = 13 := hk
      unfold decode
      rw [hkind]
      rfl
    | decimal hk hb =>
      have hbyte : (Word.byte w).toNat = 0x33 := (Word.toNat_byte w).trans hb
      rw [decode_of_device hk, decodeDevice, hbyte]
      rfl
    | registers hk hb =>
      rcases hb with hb | hb
      · have hbyte : (Word.byte w).toNat = 0x55 := (Word.toNat_byte w).trans hb
        rw [decode_of_device hk, decodeDevice, hbyte]
        rfl
      · have hbyte : (Word.byte w).toNat = 0x65 := (Word.toNat_byte w).trans hb
        rw [decode_of_device hk, decodeDevice, hbyte]
        rfl

end Instruction

/-! ## No key -/

theorem Keypad.first?_eq_none_iff (p : Keypad) : p.first? = none ↔ p.mask = 0 := by
  rw [← Keypad.mask_fresh, Keypad.mask_eq_iff, Keypad.first?, List.find?_eq_none]
  constructor
  · intro h k
    rw [Keypad.isDown_fresh]
    exact eq_false_of_ne_true (h k (List.mem_finRange k))
  · intro h k _
    rw [h k, Keypad.isDown_fresh]
    exact Bool.false_ne_true

namespace Machine

/-! ## Fetching -/

/-- The word at the program counter, which is even and leaves room for it. -/
structure Reads (m : Machine) (w : Word) : Prop where
  even : m.pc.toNat % 2 = 0
  inside : m.pc.toNat ≤ 0xFFE
  /-- The higher byte comes first. -/
  bytes : w.toNat = (m.memory.byteAt m.pc.toNat).toNat * 0x100 +
    (m.memory.byteAt (m.pc.toNat + 1)).toNat

theorem pc_even_iff (m : Machine) : m.pc % 2 = 0 ↔ m.pc.toNat % 2 = 0 := by
  rw [← UInt16.toNat_inj]
  exact Iff.rfl

theorem toNat_ofBytes (hi lo : UInt8) :
    (Word.ofBytes hi lo).toNat = hi.toNat * 0x100 + lo.toNat := by
  have hhi := hi.toNat_lt
  have hlo := lo.toNat_lt
  show (hi.toNat * 256 + lo.toNat) % 65536 = _
  omega

theorem fetch_eq_ok_iff (m : Machine) (w : Word) : m.fetch = .ok w ↔ m.Reads w := by
  constructor
  · intro h
    obtain ⟨hle, heven⟩ := pc_of_fetch h
    have hle' : m.pc.toNat + 2 ≤ 4096 := hle
    refine ⟨heven, by omega, ?_⟩
    rw [fetch, if_pos ((pc_even_iff m).mpr heven), Memory.word, if_pos hle] at h
    rw [← Except.ok.inj h, toNat_ofBytes]
  · rintro ⟨heven, hinside, hbytes⟩
    have hle : m.pc.toNat + 2 ≤ Memory.size := by
      show m.pc.toNat + 2 ≤ 4096
      omega
    rw [fetch, if_pos ((pc_even_iff m).mpr heven), Memory.word, if_pos hle]
    refine congrArg Except.ok (UInt16.toNat_inj.mp ?_)
    rw [toNat_ofBytes, hbytes]

theorem fetch_eq_error_iff (m : Machine) (f : Fault) :
    m.fetch = .error f ↔
      m.pc.toNat % 2 = 1 ∧ f = .misalignedPc m.pc ∨
        m.pc.toNat % 2 = 0 ∧ 0xFFE < m.pc.toNat ∧ f = .addressOutOfBounds m.pc 2 := by
  by_cases heven : m.pc.toNat % 2 = 0
  · have hnot : ¬ m.pc.toNat % 2 = 1 := by omega
    rw [fetch, if_pos ((pc_even_iff m).mpr heven), Memory.word]
    by_cases hle : m.pc.toNat + 2 ≤ Memory.size
    · have hle' : m.pc.toNat + 2 ≤ 4096 := hle
      have hin : ¬ 0xFFE < m.pc.toNat := by omega
      rw [if_pos hle]
      simp [hnot, hin]
    · have hle' : ¬ m.pc.toNat + 2 ≤ 4096 := hle
      have hout : 0xFFE < m.pc.toNat := by omega
      rw [if_neg hle]
      simp [heven, hout, eq_comm]
  · have hodd : m.pc.toNat % 2 = 1 := by omega
    rw [fetch, if_neg fun h => heven ((pc_even_iff m).mp h)]
    simp [hodd, eq_comm]

/-! ## The rules -/

/-- A step of the machine breaks a rule, and this is the fault.  Each rule is looked at only where
those before it are kept. -/
inductive Breaks (m : Machine) : Fault → Prop
  /-- The program counter is odd. -/
  | misaligned (odd : m.pc.toNat % 2 = 1) : Breaks m (.misalignedPc m.pc)
  /-- There is no room for a word at the program counter. -/
  | noWord (even : m.pc.toNat % 2 = 0) (beyond : 0xFFE < m.pc.toNat) :
      Breaks m (.addressOutOfBounds m.pc 2)
  /-- `2nnn` calls while every place on the stack is taken. -/
  | overflow {w : Word} (reads : m.Reads w) (kind : w.toNat / 0x1000 = 0x2)
      (full : m.depth.val = 16) : Breaks m .stackOverflow
  /-- `00EE` returns while the stack is empty. -/
  | underflow {w : Word} (reads : m.Reads w) (word : w.toNat = 0x00EE)
      (empty : m.depth.val = 0) : Breaks m .stackUnderflow
  /-- The instruction accesses bytes beyond the end of memory. -/
  | outside {w : Word} {len : Nat} (reads : m.Reads w) (accesses : Accesses w len)
      (beyond : 0x1000 < m.index.toNat + len) : Breaks m (.addressOutOfBounds m.index len)

theorem windowFault?_eq_some_iff (m : Machine) (len : Nat) (f : Fault) :
    m.windowFault? len = some f ↔
      0x1000 < m.index.toNat + len ∧ .addressOutOfBounds m.index len = f := by
  rw [windowFault?, Option.ite_none_left_eq_some, Option.some.injEq, Nat.not_le]
  rfl

theorem faultOf?_call_eq_some_iff (m : Machine) (target : Address) (f : Fault) :
    m.faultOf? (.call target) = some f ↔ m.depth.val = 16 ∧ .stackOverflow = f := by
  have hlt := m.depth.isLt
  have hfull : ¬ m.depth.val < 16 ↔ m.depth.val = 16 := by omega
  show (if m.depth.val < 16 then none else some Fault.stackOverflow) = some f ↔ _
  rw [Option.ite_none_left_eq_some, Option.some.injEq, hfull]

theorem faultOf?_ret_eq_some_iff (m : Machine) (f : Fault) :
    m.faultOf? .ret = some f ↔ m.depth.val = 0 ∧ .stackUnderflow = f := by
  have hempty : ¬ 0 < m.depth.val ↔ m.depth.val = 0 := by omega
  show (if 0 < m.depth.val then none else some Fault.stackUnderflow) = some f ↔ _
  rw [Option.ite_none_left_eq_some, Option.some.injEq, hempty]

/-- An instruction with a window faults if its window leaves memory, and no other way. -/
theorem faultOf?_of_window {m : Machine} {i : Instruction} {len : Nat}
    (h : i.window? = some len) : m.faultOf? i = m.windowFault? len := by
  cases i with
  | drw x y n => exact congrArg m.windowFault? (Option.some.inj h)
  | ldDecimal x => exact congrArg m.windowFault? (Option.some.inj h)
  | store x => exact congrArg m.windowFault? (Option.some.inj h)
  | load x => exact congrArg m.windowFault? (Option.some.inj h)
  | _ => cases h

theorem breaks_of_window {m : Machine} {w : Word} {len : Nat} {f : Fault} (hw : m.Reads w)
    (hwindow : (Instruction.decode w).window? = some len) (h : m.windowFault? len = some f) :
    m.Breaks f := by
  obtain ⟨hout, rfl⟩ := (windowFault?_eq_some_iff m len f).mp h
  exact .outside hw ((Instruction.accesses_iff w len).mp hwindow) hout

/-- A word whose instruction faults breaks one of the rules on words. -/
theorem breaks_of_faultOf? {m : Machine} {w : Word} {f : Fault} (hw : m.Reads w)
    (h : m.faultOf? (Instruction.decode w) = some f) : m.Breaks f := by
  cases hi : Instruction.decode w with
  | call target =>
    rw [hi, faultOf?_call_eq_some_iff] at h
    obtain ⟨hfull, rfl⟩ := h
    exact .overflow hw ((Instruction.exists_decode_call_iff w).mp ⟨target, hi⟩) hfull
  | ret =>
    rw [hi, faultOf?_ret_eq_some_iff] at h
    obtain ⟨hempty, rfl⟩ := h
    exact .underflow hw ((Instruction.decode_eq_ret_iff w).mp hi) hempty
  | drw x y n =>
    rw [hi] at h
    exact breaks_of_window hw (congrArg Instruction.window? hi) h
  | ldDecimal x =>
    rw [hi] at h
    exact breaks_of_window hw (congrArg Instruction.window? hi) h
  | store x =>
    rw [hi] at h
    exact breaks_of_window hw (congrArg Instruction.window? hi) h
  | load x =>
    rw [hi] at h
    exact breaks_of_window hw (congrArg Instruction.window? hi) h
  | _ =>
    -- No other instruction looks at the stack or at a window.
    rw [hi] at h
    cases h

theorem fault?_of_reads {m : Machine} {w : Word} (h : m.Reads w) :
    m.fault? = m.faultOf? (Instruction.decode w) := by
  rw [fault?, (fetch_eq_ok_iff m w).mpr h]

/-- The next step faults exactly if it breaks a rule, and that is the fault. -/
theorem fault?_eq_some_iff (m : Machine) (f : Fault) : m.fault? = some f ↔ m.Breaks f := by
  constructor
  · intro h
    -- A fetch that fails breaks one of the first two rules; otherwise the word decides.
    cases hw : m.fetch with
    | error e =>
      rw [fault?, hw] at h
      obtain rfl : e = f := Option.some.inj h
      rcases (fetch_eq_error_iff m e).mp hw with ⟨hodd, rfl⟩ | ⟨heven, hbeyond, rfl⟩
      · exact .misaligned hodd
      · exact .noWord heven hbeyond
    | ok w =>
      have hreads := (fetch_eq_ok_iff m w).mp hw
      rw [fault?_of_reads hreads] at h
      exact breaks_of_faultOf? hreads h
  · intro h
    cases h with
    | misaligned hodd => rw [fault?, (fetch_eq_error_iff m _).mpr (.inl ⟨hodd, rfl⟩)]
    | noWord heven hbeyond =>
      rw [fault?, (fetch_eq_error_iff m _).mpr (.inr ⟨heven, hbeyond, rfl⟩)]
    | overflow hreads hk hfull =>
      obtain ⟨target, hi⟩ := (Instruction.exists_decode_call_iff _).mpr hk
      rw [fault?_of_reads hreads, hi]
      exact (faultOf?_call_eq_some_iff m target _).mpr ⟨hfull, rfl⟩
    | underflow hreads hword hempty =>
      rw [fault?_of_reads hreads, (Instruction.decode_eq_ret_iff _).mpr hword]
      exact (faultOf?_ret_eq_some_iff m _).mpr ⟨hempty, rfl⟩
    | outside hreads haccess hout =>
      rw [fault?_of_reads hreads, faultOf?_of_window ((Instruction.accesses_iff _ _).mpr haccess)]
      exact (windowFault?_eq_some_iff m _ _).mpr ⟨hout, rfl⟩

/-! ## How steps end -/

theorem resultOf_eq_wait_iff (m : Machine) (i : Instruction) :
    m.resultOf i = .ok .waitForKey ↔ (∃ x, i = .ldKey x) ∧ m.keypad.mask = 0 := by
  constructor
  · intro h
    cases i with
    | ldKey x =>
      refine ⟨⟨x, rfl⟩, (Keypad.first?_eq_none_iff _).mp ?_⟩
      rw [resultOf_of_none rfl] at h
      cases hfirst : m.keypad.first? with
      | none => rfl
      | some k =>
        rw [flowOf, hfirst] at h
        cases h
    | _ =>
      unfold resultOf at h
      split at h <;> cases h
  · rintro ⟨⟨x, rfl⟩, hmask⟩
    rw [resultOf_of_none rfl, flowOf, (Keypad.first?_eq_none_iff _).mpr hmask]
    rfl

/-- **How a step ends**: with a fault exactly if it breaks a rule, and then with that fault; done
or waiting in every other state; and waiting exactly if the word at the program counter is `Fx0A`
and no key is down. -/
theorem step_result_iff (m : Machine) :
    (∀ f, m.step.result = .error f ↔ m.Breaks f) ∧
      ((∃ flow, m.step.result = .ok flow) ↔ ∀ f, ¬ m.Breaks f) ∧
      (m.step.result = .ok .waitForKey ↔
        ∃ w, m.Reads w ∧ w.toNat / 0x1000 = 0xF ∧ w.toNat % 0x100 = 0x0A ∧
          m.keypad.mask = 0) := by
  have herror : ∀ f, m.step.result = .error f ↔ m.Breaks f := by
    intro f
    rw [step_error_iff, fault?_eq_some_iff]
  refine ⟨herror, ?_, ?_⟩
  · constructor
    · rintro ⟨flow, hflow⟩ f hf
      have hfault := (herror f).mpr hf
      rw [hflow] at hfault
      cases hfault
    · intro h
      cases hr : m.step.result with
      | ok flow => exact ⟨flow, rfl⟩
      | error f => exact absurd ((herror f).mp hr) (h f)
  · rw [step_result]
    constructor
    · intro h
      cases hw : m.fetch with
      | error f =>
        rw [hw] at h
        cases h
      | ok w =>
        rw [hw] at h
        obtain ⟨hkey, hmask⟩ := (resultOf_eq_wait_iff m _).mp h
        obtain ⟨hk, hb⟩ := (Instruction.exists_decode_ldKey_iff w).mp hkey
        exact ⟨w, (fetch_eq_ok_iff m w).mp hw, hk, hb, hmask⟩
    · rintro ⟨w, hreads, hk, hb, hmask⟩
      rw [(fetch_eq_ok_iff m w).mpr hreads]
      have hkey := (Instruction.exists_decode_ldKey_iff w).mpr ⟨hk, hb⟩
      exact (resultOf_eq_wait_iff m _).mpr ⟨hkey, hmask⟩

end Machine

end Chip8
