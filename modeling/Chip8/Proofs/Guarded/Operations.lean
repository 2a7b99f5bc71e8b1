import Chip8.Proofs.Control
import Chip8.Proofs.Guarded.Keypad
import Chip8.Proofs.Guarded.Memory

/-!
# No operation traps

Carried out with every number looked at, each operation on a machine gives what
the plain one gives.  What the handlers of instructions take for this is that
the program counter points past an instruction that was fetched: then it is at
least 2, and skipping another one stays far within 16 bits.

## Main definitions

* `Fetched`: the program counter points past an instruction of memory

## Main results

* `execute_eq`, `step_eq`: instructions and steps
* `perform_eq`: no operation traps
-/

namespace Chip8.Guarded

/-- The program counter points past an instruction of memory. -/
def Fetched (m : Machine) : Prop :=
  2 ≤ m.pc.toNat ∧ m.pc.toNat ≤ Memory.size

/-! ## Registers and the program counter -/

@[simp] theorem reg_eq (m : Machine) (x : Register) : reg m x.val = .ok (m.reg x) := by
  rw [reg, index_val, ok_bind]
  rfl

@[simp] theorem setReg_eq (m : Machine) (x : Register) (b : UInt8) :
    setReg m x.val b = .ok (m.setReg x b) := by
  rw [setReg, index_val, ok_bind]
  rfl

@[simp] theorem setFlagged_eq (m : Machine) (x : Register) (value : UInt8) (flag : Bool) :
    setFlagged m x.val value flag = .ok (m.setFlagged x value flag) := by
  rw [setFlagged, setReg_eq, ok_bind]
  exact setReg_eq _ 0xF _

theorem advance_eq {m : Machine} (h : m.pc.toNat ≤ Memory.size) : advance m = .ok m.advance := by
  have h' : m.pc.toNat ≤ 4096 := h
  have hlt : m.pc.toNat + (2 : UInt16).toNat < UInt16.size := by
    show m.pc.toNat + 2 < 65536
    omega
  rw [advance, add16_of_lt hlt, ok_bind]
  rfl

theorem site_eq {m : Machine} (h : Fetched m) : site m = .ok m.site :=
  sub16_of_le h.1

theorem skipIf_eq {m : Machine} (h : Fetched m) (condition : Bool) :
    skipIf m condition = .ok (m.skipIf condition) := by
  cases condition with
  | false => rfl
  | true => exact advance_eq h.2

/-- A byte and an address add up within 16 bits. -/
theorem add16_byte_address (b : UInt8) (a : Address) :
    add16 b.toUInt16 (UInt16.ofNat a.val) = .ok (UInt16.ofNat (b.toNat + a.val)) := by
  have hb := b.toNat_lt
  have ha := a.isLt
  have haddress : (UInt16.ofNat a.val).toNat = a.val := by
    show a.val % 65536 = a.val
    omega
  rw [add16_of_lt]
  · refine congrArg Except.ok (UInt16.toNat_inj.mp ?_)
    rw [UInt16.toNat_add, haddress]
    rfl
  · rw [haddress]
    show b.toNat + a.val < 65536
    omega

/-! ## Calls -/

theorem call_eq (m : Machine) (target : Address) : call m target = .ok (m.call target) := by
  unfold call Machine.call
  by_cases h : m.depth.val < 16
  · have hle : ¬ m.depth.val ≥ 16 := by omega
    have hdepth : m.depth.val + 1 < 17 := by omega
    rw [if_neg hle, dif_pos h, index_of_lt h, ok_bind, index_of_lt hdepth, ok_bind]
    rfl
  · have hge : m.depth.val ≥ 16 := by omega
    rw [if_pos hge, dif_neg h]
    rfl

theorem ret_eq (m : Machine) : ret m = .ok m.ret := by
  unfold ret Machine.ret
  have hle := m.depth.isLt
  by_cases h : 0 < m.depth.val
  · have hne : ¬ m.depth.val = 0 := by omega
    have hdepth : m.depth.val - 1 < 17 := by omega
    have hplace : m.depth.val - 1 < 16 := by omega
    rw [if_neg hne, dif_pos h, index_of_lt hdepth, ok_bind, index_of_lt hplace, ok_bind]
    rfl
  · have heq : m.depth.val = 0 := by omega
    rw [if_pos heq, dif_neg h]
    rfl

/-! ## Blocks of memory -/

theorem storeBytes_eq (m : Machine) {data : List UInt8} (h : data.length ≤ Memory.size) :
    storeBytes m data = .ok (m.storeBytes data) := by
  rw [storeBytes, write_eq m.memory m.index h, ok_bind, Machine.storeBytes]
  cases m.memory.write m.index data with
  | ok memory => rfl
  | error f => rfl

theorem storeRegisters_eq (m : Machine) (x : Register) :
    storeRegisters m x = .ok (m.storeBytes (m.registersUpTo x)) := by
  have hx := x.isLt
  have hlen : (m.registersUpTo x).length ≤ Memory.size := by
    rw [Machine.registersUpTo, List.length_take, Bank.length_toList]
    exact Nat.le_trans (Nat.min_le_right _ _) (by decide)
  rw [storeRegisters, range_of_le (by omega), ok_bind, storeBytes_eq m hlen]

theorem loadRegisters_eq (m : Machine) (x : Register) :
    loadRegisters m x = .ok (m.loadRegisters x) := by
  have hx := x.isLt
  have hlen : x.val + 1 ≤ Memory.size := Nat.le_trans hx (by decide)
  rw [loadRegisters, read_eq m.memory m.index hlen, ok_bind, Machine.loadRegisters, Memory.read]
  by_cases h : m.index.toNat + (x.val + 1) ≤ Memory.size
  · simp only [if_pos h]
    rw [range_of_le (by omega), ok_bind, Memory.length_slice, sameLength_self, ok_bind]
    rfl
  · simp only [if_neg h]
    rfl

theorem drawSprite_eq (m : Machine) (x y : Register) (n : Nibble) (hn : n.val ≤ maxRows) :
    drawSprite m x y n = .ok (m.drawSprite x y n) := by
  have hlen : n.val ≤ Memory.size := Nat.le_trans hn (by decide)
  rw [drawSprite, read_eq m.memory m.index hlen, ok_bind, Machine.drawSprite, Memory.read]
  by_cases h : m.index.toNat + n.val ≤ Memory.size
  · have hrows : 0 + (m.memory.slice m.index.toNat n.val).length ≤ 16 := by
      rw [Memory.length_slice]
      exact Nat.le_trans (Nat.le_of_eq (Nat.zero_add _)) (Nat.le_of_lt n.isLt)
    simp only [if_pos h]
    rw [range_of_le (by omega), ok_bind, Memory.length_slice, sameLength_self, ok_bind,
      range_of_le (by decide), ok_bind, reg_eq, ok_bind, reg_eq, ok_bind,
      drawRows_eq (m.reg x).toNat_lt (m.reg y).toNat_lt hrows, ok_bind]
    exact congrArg (· >>= fun m => pure (Machine.done m)) (setReg_eq _ 0xF _)
  · simp only [if_neg h]
    rfl

/-! ## Instructions -/

theorem awaitKey_eq (m : Machine) (x : Register) : awaitKey m x = .ok (m.awaitKey x) := by
  unfold awaitKey Machine.awaitKey
  cases m.keypad.first? with
  | none => rfl
  | some k =>
    show (setReg m x.val k.code >>= _) = _
    rw [setReg_eq]
    rfl

/-- **No instruction traps.** -/
theorem execute_eq {m : Machine} (h : Fetched m) (i : Instruction) :
    execute m i = .ok (m.execute i) := by
  -- Where the program counter is used, it has to point past a word that was fetched.
  cases i with
  | cls => rw [execute, clearFrame_eq]; rfl
  | ret => exact ret_eq m
  | sys target => rw [execute, site_eq h]; rfl
  | call target => exact call_eq m target
  | seByte x kk => rw [execute, reg_eq, ok_bind, skipIf_eq h]; rfl
  | sneByte x kk => rw [execute, reg_eq, ok_bind, skipIf_eq h]; rfl
  | seReg x y => rw [execute, reg_eq, ok_bind, reg_eq, ok_bind, skipIf_eq h]; rfl
  | sneReg x y => rw [execute, reg_eq, ok_bind, reg_eq, ok_bind, skipIf_eq h]; rfl
  | shr x y =>
    rw [execute, reg_eq, ok_bind, shiftRight8_of_lt _ (by decide), ok_bind, lowBit_eq,
      setFlagged_eq]
    rfl
  | shl x y =>
    rw [execute, reg_eq, ok_bind, shiftLeft8_of_lt _ (by decide), ok_bind, highBit_eq,
      setFlagged_eq]
    rfl
  | jpV0 a =>
    have h0 : reg m 0 = .ok (m.reg 0) := reg_eq m 0
    rw [execute, h0, ok_bind, add16_byte_address]
    rfl
  | drw x y n => exact drawSprite_eq m x y n (Nat.le_of_lt_succ n.isLt)
  | skp x => rw [execute, reg_eq, ok_bind, isPressed_eq, ok_bind, skipIf_eq h]; rfl
  | sknp x => rw [execute, reg_eq, ok_bind, isPressed_eq, ok_bind, skipIf_eq h]; rfl
  | ldKey x => exact awaitKey_eq m x
  | ldGlyph x => rw [execute, reg_eq, ok_bind, glyphAddress_eq]; rfl
  | ldDecimal x =>
    have hlen : (Machine.decimalDigits (m.reg x)).length ≤ Memory.size :=
      show 3 ≤ Memory.size by decide
    rw [execute, reg_eq, ok_bind, storeBytes_eq m hlen]
    rfl
  | store x => exact storeRegisters_eq m x
  | load x => exact loadRegisters_eq m x
  | unknown w => rw [execute, site_eq h]; rfl
  | _ => simp only [execute, reg_eq, setReg_eq, setFlagged_eq, ok_bind, pure_eq_ok]; rfl

/-! ## Steps and operations -/

theorem fetch_eq (m : Machine) : fetch m = .ok m.fetch := by
  unfold fetch Machine.fetch
  by_cases h : m.pc % 2 = 0
  · rw [if_pos h, if_pos h, word_eq]
  · rw [if_neg h, if_neg h]
    rfl

theorem fetched_advance {m : Machine} {w : Word} (h : m.fetch = .ok w) : Fetched m.advance := by
  rw [Fetched, Machine.toNat_pc_advance h]
  exact ⟨Nat.le_add_left 2 _, (Machine.pc_of_fetch h).1⟩

/-- **No step traps.** -/
theorem step_eq (m : Machine) : step m = .ok m.step := by
  rw [step, fetch_eq, ok_bind, Machine.step]
  cases h : m.fetch with
  | error f => rfl
  | ok w =>
    -- That there was a word to fetch bounds the program counter, whatever machine this is.
    have hle : m.pc.toNat ≤ Memory.size :=
      Nat.le_trans (Nat.le_add_right _ 2) (Machine.pc_of_fetch h).1
    simp only []
    rw [advance_eq hle, ok_bind, decode_eq, ok_bind, execute_eq (fetched_advance h), ok_bind]
    rfl

/-- **No operation traps.** -/
theorem perform_eq (m : Machine) (op : Operation) : perform m op = .ok (m.perform op) := by
  cases op with
  | load image =>
    rw [perform, loadImage_eq, ok_bind, Machine.perform, Machine.performLoad, Machine.load]
    cases m.memory.load image with
    | ok memory => rfl
    | error e => rfl
  | step => rw [perform, step_eq]; rfl
  | tick => rfl
  | keyDown code generation => rw [perform, press_eq]; rfl
  | keyUp code generation => rw [perform, release_eq]; rfl

end Chip8.Guarded
