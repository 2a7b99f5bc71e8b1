import Chip8.Proofs.Operations
import Chip8.Proofs.Parts

/-!
# Control

Only calls and returns change which return addresses are pending: a call adds
where it came from, a return takes the latest away.  The program counter goes
where an instruction says, and that is never far beyond the end of memory: a
skip adds 2, a jump goes to twelve bits plus at most a byte, and a return goes
to an address that a call left.

## Main definitions

* `SameControl`: neither the program counter nor the stack changed
* `Machine.pendingAfter`: the pending addresses after an instruction

## Main results

* `execute_pending`: what an instruction does to the pending addresses
* `execute_pc_le`: how far an instruction can go
* `pc_of_fetch`: where instructions lie
-/

namespace Chip8

namespace Machine

/-! ## The stack as a list -/

@[simp] theorem length_pending (m : Machine) : m.pending.length = m.depth.val := by
  have h := m.depth.isLt
  rw [pending, List.length_take, Bank.length_toList]
  omega

theorem pending_switchedOn (random : Generator) : (switchedOn random).pending = [] := rfl

/-- A place filled at the top is a return address more. -/
theorem take_toList_set (stack : Bank UInt16) {depth : Nat} (h : depth < 16) (a : UInt16) :
    (stack.set ⟨depth, h⟩ a).toList.take (depth + 1) = stack.toList.take depth ++ [a] := by
  have hset : (stack.set ⟨depth, h⟩ a).toList = stack.toList.set depth a := Vector.toList_set h
  have hlen : depth < stack.toList.length := by
    rw [Bank.length_toList]
    exact h
  rw [hset, List.take_add_one, List.take_set_of_le (Nat.le_refl depth),
    List.getElem?_set_self hlen]
  rfl

/-- The place at the top holds the latest return address. -/
theorem take_toList_succ (stack : Bank UInt16) {depth : Nat} (h : depth < 16) :
    stack.toList.take (depth + 1) = stack.toList.take depth ++ [stack.get ⟨depth, h⟩] := by
  rw [List.take_add_one]
  exact congrArg (stack.toList.take depth ++ Option.toList ·) (Bank.getElem?_toList stack ⟨depth, h⟩)

theorem pending_call {m : Machine} (h : m.depth.val < 16) (target : Address) :
    (m.call target).machine.pending = m.pending ++ [m.pc] := by
  rw [call, dif_pos h]
  exact take_toList_set m.stack h m.pc

/-- A return goes to the latest return address and takes it away. -/
theorem pending_ret {m : Machine} (h : 0 < m.depth.val) :
    m.pending = m.ret.machine.pending ++ [m.ret.machine.pc] := by
  have hlt := m.depth.isLt
  obtain ⟨d, hd⟩ : ∃ d, m.depth.val = d + 1 := ⟨m.depth.val - 1, by omega⟩
  have hd16 : d < 16 := by omega
  have hplace : (⟨m.depth.val - 1, by omega⟩ : Nibble) = ⟨d, hd16⟩ := Fin.ext (by simp [hd])
  have hret : m.ret.machine.pending ++ [m.ret.machine.pc] =
      m.stack.toList.take (m.depth.val - 1) ++ [m.stack.get ⟨m.depth.val - 1, by omega⟩] := by
    rw [ret, dif_pos h]
    rfl
  rw [hret, hplace, pending, hd]
  exact take_toList_succ m.stack hd16

theorem call_of_full {m : Machine} (h : ¬ m.depth.val < 16) (target : Address) :
    (m.call target).machine = m := by
  rw [call, dif_neg h]
  rfl

theorem ret_of_empty {m : Machine} (h : ¬ 0 < m.depth.val) : m.ret.machine = m := by
  rw [ret, dif_neg h]
  rfl

/-! ## What leaves control alone -/

/-- Neither the program counter nor the stack changed. -/
structure SameControl (m after : Machine) : Prop where
  pc_eq : after.pc = m.pc
  stack_eq : after.stack = m.stack
  depth_eq : after.depth = m.depth

theorem SameControl.pending_eq {m after : Machine} (h : SameControl m after) :
    after.pending = m.pending := by
  rw [pending, pending, h.stack_eq, h.depth_eq]

theorem SameControl.pc_le {m after : Machine} (h : SameControl m after) {bound : Nat}
    (hle : m.pc.toNat ≤ bound) : after.pc.toNat ≤ bound := by
  rw [h.pc_eq]
  exact hle

theorem memory_control (m : Machine) (memory : Memory) : SameControl m { m with memory } :=
  ⟨rfl, rfl, rfl⟩

/-! ## What instructions do -/

/-- The pending return addresses after an instruction. -/
def pendingAfter (m : Machine) : Instruction → List UInt16
  | .call _ => if m.depth.val < 16 then m.pending ++ [m.pc] else m.pending
  | .ret => m.pending.dropLast
  | _ => m.pending

/-- **What an instruction does to the pending return addresses** is what `pendingAfter` says. -/
theorem execute_pending (m : Machine) (i : Instruction) :
    (m.execute i).machine.pending = m.pendingAfter i := by
  cases i with
  | call target =>
    show (m.call target).machine.pending = if m.depth.val < 16 then _ else _
    by_cases h : m.depth.val < 16
    · rw [if_pos h, pending_call h]
    · rw [if_neg h, call_of_full h]
  | ret =>
    show m.ret.machine.pending = m.pending.dropLast
    by_cases h : 0 < m.depth.val
    · rw [pending_ret h, List.dropLast_concat]
    · have hnil : m.pending = [] := List.eq_nil_of_length_eq_zero (by
        rw [length_pending]
        omega)
      rw [ret_of_empty h, hnil]
      rfl
  | _ =>
    -- The stack is no part of any other instruction.
    refine pending_execute_of_not_mem m ?_
    nofun

/-- How far an instruction can go: to the end of memory and a byte less two beyond. -/
def maxPc : Nat := 0x10FE

theorem skipIf_pc_le {m : Machine} (h : m.pc.toNat ≤ Memory.size) (condition : Bool) :
    (m.skipIf condition).pc.toNat ≤ maxPc := by
  have h' : m.pc.toNat ≤ 4096 := h
  cases condition with
  | false =>
    show m.pc.toNat ≤ 4350
    omega
  | true =>
    show (m.pc + 2).toNat ≤ 4350
    rw [UInt16.toNat_add]
    show (m.pc.toNat + 2) % 65536 ≤ 4350
    omega

theorem toNat_ofNat_address (a : Address) : (UInt16.ofNat a.val).toNat = a.val := by
  have ha := a.isLt
  show a.val % 65536 = a.val
  omega

/-- **How far an instruction can go** that lies within memory, with return addresses that lie
within memory. -/
theorem execute_pc_le {m : Machine} (hpc : m.pc.toNat ≤ Memory.size)
    (hpending : ∀ a ∈ m.pending, a.toNat ≤ Memory.size) (i : Instruction) :
    (m.execute i).machine.pc.toNat ≤ maxPc := by
  have hmax : Memory.size ≤ maxPc := by decide
  have hstay : m.pc.toNat ≤ maxPc := Nat.le_trans hpc hmax
  cases i with
  | jp target =>
    have ha := target.isLt
    show (UInt16.ofNat target.val).toNat ≤ 4350
    rw [toNat_ofNat_address]
    omega
  | jpV0 a =>
    have ha := a.isLt
    have hb := (m.reg 0).toNat_lt
    show ((m.reg 0).toNat + a.val) % 65536 ≤ 4350
    omega
  | call target =>
    show (m.call target).machine.pc.toNat ≤ maxPc
    by_cases h : m.depth.val < 16
    · have ha := target.isLt
      rw [call, dif_pos h]
      show (UInt16.ofNat target.val).toNat ≤ 4350
      rw [toNat_ofNat_address]
      omega
    · rw [call_of_full h]
      exact hstay
  | ret =>
    show m.ret.machine.pc.toNat ≤ maxPc
    by_cases h : 0 < m.depth.val
    · -- The program counter was the latest of the pending addresses.
      have hmem : m.ret.machine.pc ∈ m.pending := by
        rw [pending_ret h]
        exact List.mem_append_right _ List.mem_cons_self
      exact Nat.le_trans (hpending _ hmem) hmax
    · rw [ret_of_empty h]
      exact hstay
  | seByte x kk => exact skipIf_pc_le hpc _
  | sneByte x kk => exact skipIf_pc_le hpc _
  | seReg x y => exact skipIf_pc_le hpc _
  | sneReg x y => exact skipIf_pc_le hpc _
  | skp x => exact skipIf_pc_le hpc _
  | sknp x => exact skipIf_pc_le hpc _
  | _ =>
    rw [pc_execute_of_not_mem m (by nofun)]
    exact hstay

/-! ## What was fetched -/

/-- A word is fetched from within memory, and from an even address. -/
theorem pc_of_fetch {m : Machine} {w : Word} (h : m.fetch = .ok w) :
    m.pc.toNat + 2 ≤ Memory.size ∧ m.pc.toNat % 2 = 0 := by
  unfold fetch at h
  split at h
  · next heven =>
    refine ⟨?_, congrArg UInt16.toNat heven⟩
    unfold Memory.word at h
    split at h
    · assumption
    · cases h
  · cases h

/-- Moving past an instruction that was fetched does not wrap around. -/
theorem toNat_pc_advance {m : Machine} {w : Word} (h : m.fetch = .ok w) :
    m.advance.pc.toNat = m.pc.toNat + 2 := by
  have hlt : m.pc.toNat + 2 < 65536 := Nat.lt_of_le_of_lt (pc_of_fetch h).1 (by decide)
  show (m.pc + 2).toNat = _
  rw [UInt16.toNat_add]
  exact Nat.mod_eq_of_lt hlt

end Machine

end Chip8
