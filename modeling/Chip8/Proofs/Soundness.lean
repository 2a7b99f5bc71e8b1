import Chip8.Proofs.Faults
import Chip8.Proofs.Guarded.Operations

/-!
# Machines are sound

Return addresses are even and lie within memory or at its end, since a call is
fetched from an even address within memory; so a return, which reloads the
program counter, leads nowhere that a program could not have got to by running
on.  Only `Bnnn` leaves memory behind, by a byte at most, and there the next
fetch faults.  The invariant says just that, and every operation keeps it,
whatever program is in memory and however it rewrites itself.

## Main definitions

* `Machine.Sound`: the invariant

## Main results

* `sound_perform`: every operation keeps the invariant
* `sound_performAll`: from a machine that was just switched on, all runs keep
  it, and no operation after them traps
-/

namespace Chip8.Machine

/-- The invariant of all machines that runs reach. -/
structure Sound (m : Machine) : Prop where
  memory_size : m.memory.bytes.toList.length = Memory.size
  depth_le : m.depth.val ≤ 16
  return_even : ∀ a ∈ m.pending, a.toNat % 2 = 0
  /-- Return addresses lie within memory or at its end. -/
  return_le : ∀ a ∈ m.pending, a.toNat ≤ Memory.size
  /-- The program counter is not far beyond the end of memory. -/
  pc_le : m.pc.toNat ≤ maxPc

/-- Memory and the stack have their sizes; the rest is to be shown. -/
theorem Sound.of {m : Machine} (heven : ∀ a ∈ m.pending, a.toNat % 2 = 0)
    (hle : ∀ a ∈ m.pending, a.toNat ≤ Memory.size) (hpc : m.pc.toNat ≤ maxPc) : m.Sound where
  memory_size := Vector.length_toList
  depth_le := Nat.le_of_lt_succ m.depth.isLt
  return_even := heven
  return_le := hle
  pc_le := hpc

theorem sound_switchedOn (random : Generator) : (switchedOn random).Sound := by
  have hpc : (switchedOn random).pc = 0x200 := rfl
  refine .of ?_ ?_ ?_
  · rw [pending_switchedOn]
    exact fun _ ha => absurd ha List.not_mem_nil
  · rw [pending_switchedOn]
    exact fun _ ha => absurd ha List.not_mem_nil
  · rw [hpc]
    decide

/-- What leaves control alone keeps the invariant. -/
theorem Sound.of_control {m after : Machine} (h : m.Sound) (hc : SameControl m after) :
    after.Sound := by
  refine .of ?_ ?_ (hc.pc_le h.pc_le)
  · rw [hc.pending_eq]
    exact h.return_even
  · rw [hc.pending_eq]
    exact h.return_le

/-- Every pending return address was pending before, or is where a call came from. -/
theorem mem_pendingAfter {m : Machine} {i : Instruction} {a : UInt16} (h : a ∈ m.pendingAfter i) :
    a ∈ m.pending ∨ a = m.pc := by
  cases i with
  | call target =>
    change a ∈ if m.depth.val < 16 then m.pending ++ [m.pc] else m.pending at h
    split at h
    · rcases List.mem_append.mp h with hp | hc
      · exact .inl hp
      · exact .inr (List.mem_singleton.mp hc)
    · exact .inl h
  | ret => exact .inl (List.dropLast_subset _ h)
  | _ => exact .inl h

/-- An instruction that was fetched keeps the invariant. -/
theorem sound_execute {m : Machine} {w : Word} (h : m.Sound) (hw : m.fetch = .ok w)
    (i : Instruction) : (m.advance.execute i).machine.Sound := by
  obtain ⟨hle, heven⟩ := pc_of_fetch hw
  have hpc := toNat_pc_advance hw
  have hpcle : m.advance.pc.toNat ≤ Memory.size := by
    rw [hpc]
    exact hle
  refine .of (fun a ha => ?_) (fun a ha => ?_) (execute_pc_le hpcle h.return_le i)
  · rw [execute_pending] at ha
    rcases mem_pendingAfter ha with hp | rfl
    · exact h.return_even a hp
    · -- A call returns to where it left off: behind an even address, and at most at the end.
      rw [hpc]
      omega
  · rw [execute_pending] at ha
    rcases mem_pendingAfter ha with hp | rfl
    · exact h.return_le a hp
    · exact hpcle

theorem sound_step {m : Machine} (h : m.Sound) : m.step.machine.Sound := by
  by_cases hnext : m.step.result = .ok .next
  · obtain ⟨w, hw, hstep⟩ := step_of_next hnext
    rw [hstep]
    exact sound_execute h hw _
  · -- Faults and waiting leave the machine as it was.
    rw [step_keeps m hnext]
    exact h

theorem sound_perform (m : Machine) (op : Operation) (h : m.Sound) : (m.perform op).1.Sound := by
  cases op with
  | load image =>
    obtain ⟨memory, hload⟩ := m.exists_performLoad_eq image
    show (m.performLoad image).1.Sound
    rw [hload]
    exact h.of_control (memory_control m memory)
  | step => exact sound_step h
  | tick => exact h.of_control ⟨rfl, rfl, rfl⟩
  | keyDown code generation => exact h.of_control ⟨rfl, rfl, rfl⟩
  | keyUp code generation => exact h.of_control ⟨rfl, rfl, rfl⟩

/-- **Machines are sound, and nothing traps.**  After any run from a machine that was just switched
on, whatever its source of random numbers, the invariant holds; and any operation that follows,
carried out with every index, sum, difference, product and shift looked at, gives what the plain
one gives. -/
theorem sound_performAll (random : Generator) (run : List Operation) :
    ((switchedOn random).performAll run).Sound ∧
      ∀ op, Guarded.perform ((switchedOn random).performAll run) op =
        .ok (((switchedOn random).performAll run).perform op) :=
  ⟨performAll_induction sound_perform (sound_switchedOn random) run,
    fun op => Guarded.perform_eq _ op⟩

end Chip8.Machine
