import Chip8.Proofs.Footprint

/-!
# Arithmetic with a flag

Five operations leave two results: a byte in a register, and in VF the bit that
does not fit into it or that tells which operand is the greater.  The flag is
written after the byte.  So VF holds the flag even if it is the register of the
byte as well, and both are told by what the registers held before, though the
operands may be one register, or VF itself.

Here the operations are given on numbers.  Where a byte and its flag together
lose nothing, they make up the number that was to be computed.

## Main definitions

* `Flagging`: the five operations, what they compute and what they read
* `Machine.Computes`: what an operation does to the registers
* `Machine.Arithmetic`: what all of them do

## Main results

* `Machine.execute_flagging`: operations set a byte and then a flag
* `Machine.arithmetic`: they compute what they should
-/

namespace Chip8

/-- An operation that sets a flag. -/
inductive Flagging
  /-- Add the second operand to the first. -/
  | add
  /-- Subtract the second operand from the first. -/
  | sub
  /-- Subtract the first operand from the second. -/
  | subn
  /-- Halve the first operand. -/
  | shr
  /-- Double the first operand. -/
  | shl
  deriving DecidableEq, Repr

namespace Flagging

/-- The form of its words. -/
def form : Flagging → String
  | add => "8xy4"
  | sub => "8xy5"
  | subn => "8xy7"
  | shr => "8xy6"
  | shl => "8xyE"

/-- The instruction on two registers. -/
def instruction : Flagging → Register → Register → Instruction
  | add => .addReg
  | sub => .sub
  | subn => .subn
  | shr => .shr
  | shl => .shl

/-- The number that becomes the byte. -/
def value (a b : Int) : Flagging → Int
  | add => (a + b) % 256
  | sub => (a - b) % 256
  | subn => (b - a) % 256
  | shr => a / 2
  | shl => 2 * a % 256

/-- The flag. -/
def flag (a b : Nat) : Flagging → Bool
  | add => 255 < a + b
  | sub => b < a
  | subn => a < b
  | shr => a % 2 = 1
  | shl => 128 ≤ a

/-- The registers that are read. -/
def operands (x y : Register) : Flagging → List Register
  | add | sub | subn => [x, y]
  | shr | shl => [x]

/-- The byte itself. -/
def byte (a b : UInt8) : Flagging → UInt8
  | add => a + b
  | sub => a - b
  | subn => b - a
  | shr => a >>> 1
  | shl => a <<< 1

theorem decode_of_fits {op : Flagging} {w : Word} (h : w.Fits op.form) :
    Instruction.decode w = op.instruction w.x w.y := by
  apply Word.decode_of_standsFor
  cases op with
  | add => exact .addReg h
  | sub => exact .sub h
  | subn => exact .subn h
  | shr => exact .shr h
  | shl => exact .shl h

/-- The byte has the value that it should have. -/
theorem toNat_byte (op : Flagging) (a b : UInt8) :
    ((op.byte a b).toNat : Int) = op.value a.toNat b.toNat := by
  have ha := a.toNat_lt
  have hb := b.toNat_lt
  cases op with
  | add => simp [byte, value]
  | sub =>
    simp only [byte, value, UInt8.toNat_sub]
    omega
  | subn =>
    simp only [byte, value, UInt8.toNat_sub]
    omega
  | shr =>
    have hhalf : (a >>> 1).toNat = a.toNat / 2 := by simp [Nat.shiftRight_eq_div_pow]
    rw [byte, hhalf]
    rfl
  | shl =>
    have hdouble : (a <<< 1).toNat = a.toNat * 2 % 256 := by simp [Nat.shiftLeft_eq]
    rw [byte, hdouble, value]
    omega

/-! ## Byte and flag together -/

section Together

variable {a b : Nat}

theorem add_together (ha : a < 256) (hb : b < 256) :
    256 * ((add.flag a b).toNat : Int) + add.value a b = a + b := by
  by_cases h : 255 < a + b
  · simp only [flag, value, h, decide_true, Bool.toNat_true]
    omega
  · simp only [flag, value, h, decide_false, Bool.toNat_false]
    omega

theorem shr_together : 2 * shr.value a b + ((shr.flag a b).toNat : Int) = a := by
  by_cases h : a % 2 = 1
  · simp only [flag, value, h, decide_true, Bool.toNat_true]
    omega
  · simp only [flag, value, h, decide_false, Bool.toNat_false]
    omega

theorem shl_together (ha : a < 256) :
    256 * ((shl.flag a b).toNat : Int) + shl.value a b = 2 * a := by
  by_cases h : 128 ≤ a
  · simp only [flag, value, h, decide_true, Bool.toNat_true]
    omega
  · simp only [flag, value, h, decide_false, Bool.toNat_false]
    omega

end Together

end Flagging

namespace Machine

theorem reg_setFlagged_flag (m : Machine) (x : Register) (value : UInt8) (flag : Bool) :
    (m.setFlagged x value flag).reg 0xF = flag.toUInt8 := by
  rw [setFlagged, reg_setReg, if_pos rfl]

theorem reg_setFlagged_self (m : Machine) {x : Register} (h : x ≠ 0xF) (value : UInt8)
    (flag : Bool) : (m.setFlagged x value flag).reg x = value := by
  rw [setFlagged, reg_setReg_of_ne _ h, reg_setReg, if_pos rfl]

/-- **Operations set a byte and then a flag**, both computed from what the registers held. -/
theorem execute_flagging (m : Machine) (op : Flagging) (x y : Register) :
    m.execute (op.instruction x y) =
      done (m.setFlagged x (op.byte (m.reg x) (m.reg y))
        (op.flag (m.reg x).toNat (m.reg y).toNat)) := by
  cases op with
  | _ => rfl

/-- What an operation does to the registers, told by what these held before. -/
structure Computes (m : Machine) (op : Flagging) (x y : Register) : Prop where
  result_eq : (m.execute (op.instruction x y)).result = .ok .next
  flag_eq : ((m.execute (op.instruction x y)).machine.reg 0xF).toNat =
    (op.flag (m.reg x).toNat (m.reg y).toNat).toNat
  /-- If the register of the byte is VF, only the flag survives. -/
  value_eq : x ≠ 0xF → (((m.execute (op.instruction x y)).machine.reg x).toNat : Int) =
    op.value (m.reg x).toNat (m.reg y).toNat
  reg_eq : ∀ j, j ≠ x → j ≠ 0xF → (m.execute (op.instruction x y)).machine.reg j = m.reg j
  /-- The flag does not depend on what VF held, unless VF is read. -/
  flag_congr : 0xF ∉ op.operands x y → ∀ v,
    ((m.setReg 0xF v).execute (op.instruction x y)).machine.reg 0xF =
      (m.execute (op.instruction x y)).machine.reg 0xF

section Computes

variable (m : Machine) (op : Flagging) (x y : Register)

theorem reg_flag_execute :
    (m.execute (op.instruction x y)).machine.reg 0xF =
      (op.flag (m.reg x).toNat (m.reg y).toNat).toUInt8 := by
  rw [execute_flagging]
  exact reg_setFlagged_flag ..

/-- The flag is told by the operands that are read. -/
theorem flag_congr_of_operands {m' : Machine} (h : ∀ j ∈ op.operands x y, m'.reg j = m.reg j) :
    op.flag (m'.reg x).toNat (m'.reg y).toNat = op.flag (m.reg x).toNat (m.reg y).toNat := by
  cases op with
  | add | sub | subn =>
    have hx := h x List.mem_cons_self
    have hy := h y (List.mem_cons_of_mem _ (List.mem_singleton_self y))
    rw [hx, hy]
  | shr | shl =>
    have hx := h x (List.mem_singleton_self x)
    simp only [Flagging.flag, hx]

theorem computes : m.Computes op x y where
  result_eq := by
    rw [execute_flagging]
    rfl
  flag_eq := by
    rw [reg_flag_execute]
    cases op.flag (m.reg x).toNat (m.reg y).toNat with
    | _ => rfl
  value_eq hx := by
    rw [execute_flagging, ← Flagging.toNat_byte]
    exact congrArg (fun b : UInt8 => (b.toNat : Int)) (reg_setFlagged_self m hx _ _)
  reg_eq j hx hflag := by
    rw [execute_flagging]
    exact reg_setFlagged_of_ne m hx hflag _ _
  flag_congr hunread v := by
    rw [reg_flag_execute, reg_flag_execute]
    congr 1
    apply flag_congr_of_operands
    intro j hj
    apply reg_setReg_of_ne
    rintro rfl
    exact hunread hj

end Computes

/-- What arithmetic does on a machine. -/
structure Arithmetic (m : Machine) : Prop where
  decode_eq : ∀ (op : Flagging) (w : Word), w.Fits op.form →
    Instruction.decode w = op.instruction w.x w.y
  computes : ∀ op x y, m.Computes op x y
  /-- The flag of a sum is its ninth bit. -/
  add_eq : ∀ x y, x ≠ 0xF →
    256 * ((m.execute (Flagging.add.instruction x y)).machine.reg 0xF).toNat +
        ((m.execute (Flagging.add.instruction x y)).machine.reg x).toNat =
      (m.reg x).toNat + (m.reg y).toNat
  /-- The flag of a half is its remainder. -/
  shr_eq : ∀ x y, x ≠ 0xF →
    2 * ((m.execute (Flagging.shr.instruction x y)).machine.reg x).toNat +
      ((m.execute (Flagging.shr.instruction x y)).machine.reg 0xF).toNat = (m.reg x).toNat
  /-- The flag of a double is its ninth bit. -/
  shl_eq : ∀ x y, x ≠ 0xF →
    256 * ((m.execute (Flagging.shl.instruction x y)).machine.reg 0xF).toNat +
      ((m.execute (Flagging.shl.instruction x y)).machine.reg x).toNat = 2 * (m.reg x).toNat

/-- **Arithmetic computes what it should**, whichever registers the operands and the result are. -/
theorem arithmetic (m : Machine) : m.Arithmetic where
  decode_eq _ _ := Flagging.decode_of_fits
  computes := computes m
  add_eq x y hx := by
    have h := computes m .add x y
    have htogether := Flagging.add_together (m.reg x).toNat_lt (m.reg y).toNat_lt
    rw [← h.flag_eq, ← h.value_eq hx] at htogether
    omega
  shr_eq x y hx := by
    have h := computes m .shr x y
    have htogether := Flagging.shr_together (a := (m.reg x).toNat) (b := (m.reg y).toNat)
    rw [← h.flag_eq, ← h.value_eq hx] at htogether
    omega
  shl_eq x y hx := by
    have h := computes m .shl x y
    have htogether := Flagging.shl_together (b := (m.reg y).toNat) (m.reg x).toNat_lt
    rw [← h.flag_eq, ← h.value_eq hx] at htogether
    omega

end Machine

end Chip8
