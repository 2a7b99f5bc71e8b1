import Chip8.Proofs.Control
import Chip8.Proofs.Faults
import Mathlib.Data.List.Infix

/-!
# The call stack

A call leaves the address behind it, and the return that answers the call goes
there.  Which addresses are still awaited after a run can be told without
looking at the stack at all: start with none, add one for every call that is
made, take the latest away for every return that is made, and leave them alone
otherwise.  The stack in use is that list, whatever else the run did.

So a return that comes back to the level of a call answers that call, however
many calls were made and answered in between: as long as the count does not
drop to where it was before the call, nothing reaches the address it left.

## Main definitions

* `Transfer`, `Machine.transfer`: the call or return made by an operation
* `Machine.awaited`: the return addresses that are awaited after a run
* `Machine.Holds`: the stack in use is a list of addresses, and steps obey it
* `Machine.Answers`: a return comes back to the level of a call

## Main results

* `pending_perform`, `pending_performAll`: the stack in use is the list of the
  awaited addresses, after one operation and after a run
* `take_awaited`: what is awaited below a level that is never left
* `stack_lifo`: the call stack is a bounded last-in first-out list
-/

namespace Chip8

/-- What an operation means to the calls under way. -/
inductive Transfer
  /-- A call was made from an address. -/
  | enter (site : UInt16)
  /-- A return was made. -/
  | leave
  /-- Neither. -/
  | stay
  deriving DecidableEq, Repr

namespace Transfer

/-- What an instruction means that is carried out at an address. -/
def ofInstruction (site : UInt16) : Instruction → Transfer
  | .call _ => .enter site
  | .ret => .leave
  | _ => .stay

/-- The awaited addresses afterwards, the latest last. -/
def follow (addresses : List UInt16) : Transfer → List UInt16
  | .enter site => addresses ++ [site + 2]
  | .leave => addresses.dropLast
  | .stay => addresses

theorem site_of_enter {site site' : UInt16} {i : Instruction}
    (h : ofInstruction site i = .enter site') : site' = site := by
  cases i with
  | call target => exact (enter.inj h).symm
  | _ => cases h

/-- A transfer that does not lead below a level leaves alone what is there. -/
theorem take_follow {level : Nat} {addresses : List UInt16} (hle : level ≤ addresses.length)
    (t : Transfer) (hafter : level ≤ (t.follow addresses).length) :
    (t.follow addresses).take level = addresses.take level := by
  cases t with
  | enter site => exact List.take_append_of_le_length hle
  | leave =>
    -- What a return takes away lies above the level, or the list were too short now.
    have hlen : level ≤ addresses.length - 1 := by
      rw [← List.length_dropLast]
      exact hafter
    show addresses.dropLast.take level = addresses.take level
    rw [List.dropLast_eq_take, List.take_take, Nat.min_eq_left hlen]
  | stay => rfl

end Transfer

namespace Machine

/-- The call or return made by an operation: only a step that succeeds makes one. -/
def transfer (m : Machine) : Operation → Transfer
  | .step =>
    match m.fetch, m.step.result with
    | .ok w, .ok _ => .ofInstruction m.pc (Instruction.decode w)
    | _, _ => .stay
  | _ => .stay

/-- The return addresses that are awaited after a run, if some were awaited before. -/
def awaited (m : Machine) (addresses : List UInt16) : List Operation → List UInt16
  | [] => addresses
  | op :: rest => (m.perform op).1.awaited ((m.transfer op).follow addresses) rest

theorem awaited_cons (m : Machine) (addresses : List UInt16) (op : Operation)
    (rest : List Operation) :
    m.awaited addresses (op :: rest) =
      (m.perform op).1.awaited ((m.transfer op).follow addresses) rest := rfl

theorem awaited_append (m : Machine) (addresses : List UInt16) (first rest : List Operation) :
    m.awaited addresses (first ++ rest) =
      (m.performAll first).awaited (m.awaited addresses first) rest := by
  induction first generalizing m addresses with
  | nil => rfl
  | cons op first ih => exact ih (m.perform op).1 ((m.transfer op).follow addresses)

/-! ## What one operation does -/

theorem step_result_of_decode {m : Machine} {w : Word} {i : Instruction} (hw : m.fetch = .ok w)
    (hi : Instruction.decode w = i) : m.step.result = m.resultOf i := by
  rw [step_result, hw, ← hi]
  rfl

theorem transfer_step_of_error {m : Machine} {f : Fault} (h : m.fetch = .error f) :
    m.transfer .step = .stay := by
  simp only [transfer, h]

/-- A step that fetched a word makes the transfer of its instruction, unless that faults. -/
theorem transfer_step_of_ok {m : Machine} {w : Word} (h : m.fetch = .ok w) :
    m.transfer .step =
      match m.resultOf (Instruction.decode w) with
      | .ok _ => .ofInstruction m.pc (Instruction.decode w)
      | .error _ => .stay := by
  rw [transfer, h, step_result_of_decode h rfl]
  cases m.resultOf (Instruction.decode w) with
  | ok flow => rfl
  | error f => rfl

theorem pending_settle (o : Outcome) (pc : UInt16) :
    (o.settle pc).machine.pending = o.machine.pending := by
  obtain ⟨pc', h⟩ := o.settle_eq pc
  rw [h]
  rfl

theorem resultOf_call (m : Machine) (target : Address) :
    m.resultOf (.call target) = if m.depth.val < 16 then .ok .next else .error .stackOverflow :=
  resultOf_of_check rfl rfl

theorem resultOf_ret (m : Machine) :
    m.resultOf .ret = if 0 < m.depth.val then .ok .next else .error .stackUnderflow :=
  resultOf_of_check rfl rfl

theorem pending_eq_nil {m : Machine} (h : ¬ 0 < m.depth.val) : m.pending = [] := by
  apply List.eq_nil_of_length_eq_zero
  rw [length_pending]
  omega

/-- Carrying out a fetched instruction does to the stack what its transfer says. -/
theorem pendingAfter_advance (m : Machine) (i : Instruction) :
    m.advance.pendingAfter i =
      Transfer.follow m.pending
        (match m.resultOf i with
        | .ok _ => .ofInstruction m.pc i
        | .error _ => .stay) := by
  cases i with
  | call target =>
    rw [resultOf_call]
    by_cases h : m.depth.val < 16
    · rw [if_pos h]
      exact if_pos h
    · rw [if_neg h]
      exact if_neg h
  | ret =>
    rw [resultOf_ret]
    by_cases h : 0 < m.depth.val
    · rw [if_pos h]
      rfl
    · -- There is nothing to take away from an empty stack.
      rw [if_neg h]
      show m.pending.dropLast = m.pending
      rw [pending_eq_nil h]
      rfl
  | _ => split <;> rfl

theorem pending_step (m : Machine) :
    m.step.machine.pending = (m.transfer .step).follow m.pending := by
  cases hw : m.fetch with
  | error f =>
    rw [transfer_step_of_error hw, step_of_error hw]
    rfl
  | ok w =>
    rw [transfer_step_of_ok hw, step_of_word hw, pending_settle, execute_pending,
      pendingAfter_advance]

/-- **One operation**: only calls and returns that are made change the stack in use. -/
theorem pending_perform (m : Machine) (op : Operation) :
    (m.perform op).1.pending = (m.transfer op).follow m.pending := by
  cases op with
  | load image =>
    obtain ⟨memory, hload⟩ := m.exists_performLoad_eq image
    show (m.performLoad image).1.pending = m.pending
    rw [hload]
    exact (memory_control m memory).pending_eq
  | step => exact pending_step m
  | tick => rfl
  | keyDown code generation => rfl
  | keyUp code generation => rfl

/-! ## What a run does -/

/-- **A run**: the stack in use is the list of the awaited addresses. -/
theorem pending_performAll (m : Machine) (run : List Operation) :
    (m.performAll run).pending = m.awaited m.pending run := by
  induction run generalizing m with
  | nil => rfl
  | cons op rest ih => rw [performAll_cons, awaited_cons, ih, pending_perform]

/-- Below a level that a run never leaves, the same addresses are awaited as before. -/
theorem take_awaited (level : Nat) (m : Machine) (addresses : List UInt16) (run : List Operation)
    (h : ∀ seen, seen <+: run → level ≤ (m.awaited addresses seen).length) :
    (m.awaited addresses run).take level = addresses.take level := by
  -- The level holds right after the first operation, and from there on for the rest of the run.
  induction run generalizing m addresses with
  | nil => rfl
  | cons op rest ih =>
    have hnow : level ≤ addresses.length := h [] List.nil_prefix
    have hnext : level ≤ ((m.transfer op).follow addresses).length :=
      h [op] (List.cons_prefix_cons.mpr ⟨rfl, List.nil_prefix⟩)
    rw [awaited_cons, ih]
    · exact Transfer.take_follow hnow _ hnext
    · intro seen hseen
      exact h (op :: seen) (List.cons_prefix_cons.mpr ⟨rfl, hseen⟩)

/-! ## What steps find on the stack -/

theorem site_of_enter {m : Machine} {site : UInt16} (h : m.transfer .step = .enter site) :
    site = m.pc := by
  cases hw : m.fetch with
  | error f =>
    rw [transfer_step_of_error hw] at h
    cases h
  | ok w =>
    rw [transfer_step_of_ok hw] at h
    cases hr : m.resultOf (Instruction.decode w) with
    | error f =>
      rw [hr] at h
      cases h
    | ok flow =>
      rw [hr] at h
      exact Transfer.site_of_enter h

/-- A step that returns carries out the return instruction, and there is something to return to. -/
theorem fetch_of_leave {m : Machine} (h : m.transfer .step = .leave) :
    (∃ w, m.fetch = .ok w ∧ Instruction.decode w = .ret) ∧ 0 < m.depth.val := by
  cases hw : m.fetch with
  | error f =>
    rw [transfer_step_of_error hw] at h
    cases h
  | ok w =>
    rw [transfer_step_of_ok hw] at h
    cases hi : Instruction.decode w with
    | ret =>
      refine ⟨⟨w, rfl, hi⟩, ?_⟩
      rw [hi, resultOf_ret] at h
      by_contra hnone
      rw [if_neg hnone] at h
      cases h
    | _ =>
      -- No other instruction makes a return, whether it faults or not.
      rw [hi] at h
      split at h <;> cases h

/-- A return goes to the latest address and takes it off the stack. -/
theorem pending_of_leave {m : Machine} (h : m.transfer .step = .leave) :
    m.pending = m.step.machine.pending ++ [m.step.machine.pc] := by
  obtain ⟨⟨w, hw, hi⟩, hdepth⟩ := fetch_of_leave h
  have hnext : m.step.result = .ok .next := by
    rw [step_result_of_decode hw hi, resultOf_ret, if_pos hdepth]
  obtain ⟨w', hw', hstep⟩ := step_of_next hnext
  obtain rfl : w = w' := Except.ok.inj (hw.symm.trans hw')
  have hret : m.step = m.advance.ret := by
    rw [hstep, hi]
    rfl
  rw [hret]
  exact pending_ret (m := m.advance) hdepth

/-! ## The call stack -/

/-- The stack in use is a list of addresses, the latest last, and steps obey it. -/
structure Holds (m : Machine) (addresses : List UInt16) : Prop where
  depth_eq : m.depth.val = addresses.length
  length_le : addresses.length ≤ 16
  places_eq : m.stack.toList.take m.depth.val = addresses
  /-- A return that is made goes to the latest address. -/
  return_pc : m.transfer .step = .leave → addresses.getLast? = some m.step.machine.pc
  /-- A call that is reached is made, unless sixteen addresses are awaited. -/
  call_result : ∀ w target, m.fetch = .ok w → Instruction.decode w = .call target →
    m.step.result = if addresses.length = 16 then .error .stackOverflow else .ok .next
  /-- A return that is reached is made, unless no address is awaited. -/
  return_result : ∀ w, m.fetch = .ok w → Instruction.decode w = .ret →
    m.step.result = if addresses = [] then .error .stackUnderflow else .ok .next

theorem holds_pending (m : Machine) : m.Holds m.pending where
  depth_eq := (length_pending m).symm
  length_le := by
    rw [length_pending]
    exact Nat.le_of_lt_succ m.depth.isLt
  places_eq := rfl
  return_pc h := by
    rw [pending_of_leave h]
    exact List.getLast?_concat
  call_result w target hw hi := by
    have hlt := m.depth.isLt
    rw [step_result_of_decode hw hi, resultOf_call, length_pending]
    by_cases h : m.depth.val < 16
    · rw [if_pos h, if_neg (by omega)]
    · rw [if_neg h, if_pos (by omega)]
  return_result w hw hi := by
    rw [step_result_of_decode hw hi, resultOf_ret]
    by_cases h : 0 < m.depth.val
    · have hne : m.pending ≠ [] := by
        intro hnil
        rw [← length_pending, hnil] at h
        exact Nat.lt_irrefl 0 h
      rw [if_pos h, if_neg hne]
    · rw [if_neg h, if_pos (pending_eq_nil h)]

/-- After a run comes a call, then another run, and then a return that comes back to the level of
the call; in between no fewer addresses are awaited than right after the call. -/
structure Answers (random : Generator) (before between : List Operation) : Prop where
  /-- The step after the first run makes a call. -/
  call_made : ∃ site, ((switchedOn random).performAll before).transfer .step = .enter site
  /-- The call stays under way. -/
  under_way : ∀ seen, seen <+: between →
    ((switchedOn random).awaited [] before).length + 1 ≤
      ((switchedOn random).awaited [] (before ++ .step :: seen)).length
  /-- The count is back at the level of the call. -/
  level_eq : ((switchedOn random).awaited [] (before ++ .step :: between)).length =
    ((switchedOn random).awaited [] before).length + 1
  /-- The step after the second run makes a return. -/
  return_made : ((switchedOn random).performAll (before ++ .step :: between)).transfer .step =
    .leave

/-- A return that answers a call finds what the call left. -/
theorem awaited_of_answers {random : Generator} {before between : List Operation}
    (h : Answers random before between) :
    (switchedOn random).awaited [] (before ++ .step :: between) =
      (switchedOn random).awaited [] before ++
        [((switchedOn random).performAll before).pc + 2] := by
  obtain ⟨site, hcall⟩ := h.call_made
  obtain rfl := site_of_enter hcall
  -- Right after the call the address is awaited, and the level of the call is not left from then on.
  have hsplit : ∀ seen, (switchedOn random).awaited [] (before ++ .step :: seen) =
      ((switchedOn random).performAll before).step.machine.awaited
        ((switchedOn random).awaited [] before ++
          [((switchedOn random).performAll before).pc + 2]) seen := by
    intro seen
    rw [awaited_append, awaited_cons, hcall]
    rfl
  have hkept := take_awaited (((switchedOn random).awaited [] before).length + 1)
    ((switchedOn random).performAll before).step.machine
    ((switchedOn random).awaited [] before ++ [((switchedOn random).performAll before).pc + 2])
    between (by
      intro seen hseen
      rw [← hsplit]
      exact h.under_way seen hseen)
  rw [← hsplit, ← h.level_eq, List.take_length, h.level_eq] at hkept
  rw [hkept]
  exact List.take_of_length_le (by simp)

/-- **The call stack is a bounded last-in first-out list that nothing else touches.**  After any
run from a machine that was just switched on, the stack in use is the list of the awaited
addresses, at most sixteen; calls and returns succeed as far as it allows, and returns go to its
latest address.  A return that answers a call goes on right behind the call, and leaves the stack
as it was before the call. -/
theorem stack_lifo (random : Generator) :
    (∀ run, ((switchedOn random).performAll run).Holds ((switchedOn random).awaited [] run)) ∧
      ∀ before between, Answers random before between →
        let calling := (switchedOn random).performAll before
        let returned := ((switchedOn random).performAll (before ++ .step :: between)).step.machine
        returned.pc = calling.pc + 2 ∧ returned.depth = calling.depth ∧
          returned.stack.toList.take calling.depth.val =
            calling.stack.toList.take calling.depth.val := by
  have hawaited : ∀ run, ((switchedOn random).performAll run).pending =
      (switchedOn random).awaited [] run := pending_performAll (switchedOn random)
  constructor
  · intro run
    rw [← hawaited run]
    exact holds_pending _
  · intro before between h calling returned
    -- When the return is made, the rule on calls and the stack itself tell the same list: what was
    -- awaited before the call with the address behind it, and what the return leaves with where it
    -- goes.
    have hfound : calling.pending ++ [calling.pc + 2] = returned.pending ++ [returned.pc] :=
      calc calling.pending ++ [calling.pc + 2]
          = (switchedOn random).awaited [] (before ++ .step :: between) := by
            rw [awaited_of_answers h, hawaited before]
        _ = ((switchedOn random).performAll (before ++ .step :: between)).pending :=
            (hawaited _).symm
        _ = returned.pending ++ [returned.pc] := pending_of_leave h.return_made
    obtain ⟨hpending, hpc⟩ := List.append_inj' hfound rfl
    have hdepth : returned.depth = calling.depth := by
      apply Fin.ext
      rw [← length_pending, ← length_pending, hpending]
    have hplaces : calling.stack.toList.take calling.depth.val =
        returned.stack.toList.take returned.depth.val := hpending
    refine ⟨(List.singleton_inj.mp hpc).symm, hdepth, ?_⟩
    rw [hplaces, hdepth]

/-- A program that calls a subroutine, which calls another before it returns. -/
def nestedCalls : Image :=
  { bytes := [0x22, 0x06, 0x00, 0x00, 0x00, 0x00, 0x22, 0x0A, 0x00, 0xEE, 0x00, 0xEE] }

/-- The outer return goes on behind the outer call, and the stack is empty again. -/
theorem answers_nestedCalls :
    Answers (Generator.ofSeed 0) [.load nestedCalls] [.step, .tick, .step] ∧
      ((switchedOn (Generator.ofSeed 0)).performAll
        ([.load nestedCalls] ++ .step :: [.step, .tick, .step])).step.machine.pc = 0x202 := by
  have hrun : let m := switchedOn (Generator.ofSeed 0)
      (m.performAll [.load nestedCalls]).transfer .step = .enter 0x200 ∧
      (∀ seen ∈ [Operation.step, .tick, .step].inits,
        (m.awaited [] [.load nestedCalls]).length + 1 ≤
          (m.awaited [] ([.load nestedCalls] ++ .step :: seen)).length) ∧
      (m.awaited [] ([.load nestedCalls] ++ .step :: [.step, .tick, .step])).length =
        (m.awaited [] [.load nestedCalls]).length + 1 ∧
      (m.performAll ([.load nestedCalls] ++ .step :: [.step, .tick, .step])).transfer .step =
        .leave ∧
      (m.performAll [.load nestedCalls]).pc + 2 = 0x202 := by
    decide +kernel
  obtain ⟨hcall, hunder, hlevel, hreturn, hsite⟩ := hrun
  have h : Answers (Generator.ofSeed 0) [.load nestedCalls] [.step, .tick, .step] :=
    { call_made := ⟨0x200, hcall⟩
      under_way := fun seen hseen => hunder seen ((List.mem_inits _ _).mpr hseen)
      level_eq := hlevel
      return_made := hreturn }
  exact ⟨h, ((stack_lifo (Generator.ofSeed 0)).2 _ _ h).1.trans hsite⟩

end Machine

end Chip8
