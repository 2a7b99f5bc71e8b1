import Chip8.Proofs.Footprint
import Chip8.Proofs.Overlays

/-!
# Blocks of registers

The registers from V0 up to some register go to memory and come back from there,
as a block of consecutive bytes where the index register points.  What has been
stored is loaded again as it was, whatever happened to the registers meanwhile;
registers above the block keep what happened to them.  What has been loaded is
stored again without any change to memory.

The three decimal digits of a register are such a block as well.  They are
written by an instruction of their own, but loaded like any other.

All of this holds wherever the block lies, as long as it ends within memory:
over the font, the program and the frame, and up to the last byte.

## Main definitions

* `Machine.carryOut`: what the instruction does that a word stands for
* `Machine.IsBlock`: the bytes of a block
* `Machine.StoresBlock`: storing a block, and what comes of loading it again
* `Machine.LoadsBlock`: loading a block, and what comes of storing it back
* `Machine.CarriesBlocks`: the three instructions

## Main results

* `Machine.step_eq_carryOut`: what a step does that reads a word
* `Machine.loadRegisters_of_stored`: bytes that were stored are loaded again
* `Machine.carriesBlocks`: blocks go to memory and come back
-/

namespace Chip8.Machine

/-- What the instruction does that a word stands for. -/
def carryOut (m : Machine) (w : Word) : Outcome :=
  m.execute (Instruction.decode w)

/-- There are so many bytes of memory from where the index register points. -/
def HasRoom (m : Machine) (count : Nat) : Prop :=
  m.index.toNat + count ≤ 0x1000

instance (m : Machine) (count : Nat) : Decidable (m.HasRoom count) :=
  inferInstanceAs (Decidable (_ ≤ _))

variable (m : Machine) {w : Word} {x : Register}

/-- A step carries out the word that it reads, with the program counter behind it. -/
theorem step_eq_carryOut (hread : m.Reads w)
    (hnext : (m.advance.carryOut w).result = .ok .next) : m.step = m.advance.carryOut w := by
  have hfetch := (m.fetch_eq_ok_iff w).mpr hread
  have hstep : m.step = (m.advance.carryOut w).settle m.pc := step_of_word hfetch
  rw [hstep, Outcome.settle, hnext]

theorem carryOut_store (form : w.Fits "Fx55") :
    m.carryOut w = m.storeBytes (m.registersUpTo w.x) := by
  rw [carryOut, Word.decode_of_standsFor (.store form)]
  rfl

theorem carryOut_load (form : w.Fits "Fx65") : m.carryOut w = m.loadRegisters w.x := by
  rw [carryOut, Word.decode_of_standsFor (.load form)]
  rfl

theorem carryOut_ldDecimal (form : w.Fits "Fx33") :
    m.carryOut w = m.storeBytes (decimalDigits (m.reg w.x)) := by
  rw [carryOut, Word.decode_of_standsFor (.ldDecimal form)]
  rfl

/-! ## Blocks -/

/-- The bytes of a block, one for each register up to `x`. -/
structure IsBlock (x : Register) (block : Register → UInt8) (bytes : List UInt8) : Prop where
  length_eq : bytes.length = x.val + 1
  getElem?_eq : ∀ j : Register, j.val ≤ x.val → bytes[j.val]? = some (block j)

/-- A block has its bytes only. -/
theorem IsBlock.unique {block : Register → UInt8} {bytes bytes' : List UInt8}
    (h : IsBlock x block bytes) (h' : IsBlock x block bytes') : bytes = bytes' := by
  apply List.ext_getElem?
  intro k
  by_cases hk : k < x.val + 1
  · let j : Register := ⟨k, Nat.lt_of_lt_of_le hk x.isLt⟩
    have hj : j.val ≤ x.val := Nat.le_of_lt_succ hk
    exact (h.getElem?_eq j hj).trans (h'.getElem?_eq j hj).symm
  · have hle : x.val + 1 ≤ k := Nat.le_of_not_lt hk
    rw [List.getElem?_eq_none (by rwa [h.length_eq]), List.getElem?_eq_none (by rwa [h'.length_eq])]

theorem isBlock_registersUpTo (x : Register) : IsBlock x m.reg (m.registersUpTo x) where
  length_eq := m.length_registersUpTo x
  getElem?_eq j hj := by
    rw [registersUpTo, List.getElem?_take_of_lt (Nat.lt_succ_of_le hj), Bank.getElem?_toList]
    rfl

theorem isBlock_slice (memory : Memory) (start : Nat) (x : Register) :
    IsBlock x (fun j => memory.byteAt (start + j.val)) (memory.slice start (x.val + 1)) where
  length_eq := memory.length_slice start (x.val + 1)
  getElem?_eq _ hj := memory.getElem?_slice start (Nat.lt_succ_of_le hj)

theorem isBlock_decimalDigits (b : UInt8) :
    IsBlock 2 (fun j => (decimalDigits b).getD j.val 0) (decimalDigits b) where
  length_eq := rfl
  getElem?_eq j hj := by
    have hlt : j.val < (decimalDigits b).length := Nat.lt_succ_of_le hj
    rw [List.getD_eq_getElem?_getD, List.getElem?_eq_getElem hlt]
    rfl

/-- Registers that are set to a block have it, and those above it stay. -/
theorem IsBlock.reg_setRegisters {block : Register → UInt8} {bytes : List UInt8}
    (h : IsBlock x block bytes) (j : Register) :
    (m.setRegisters bytes).reg j = if j.val ≤ x.val then block j else m.reg j := by
  by_cases hj : j.val ≤ x.val
  · rw [if_pos hj, Machine.reg_setRegisters, h.getElem?_eq j hj]
    rfl
  · have hle : bytes.length ≤ j.val := by
      rw [h.length_eq]
      exact Nat.lt_of_not_le hj
    rw [if_neg hj, reg_setRegisters_of_le m hle]

/-! ## To memory, and back into registers -/

theorem storeBytes_of_room {bytes : List UInt8} (h : m.HasRoom bytes.length) :
    m.storeBytes bytes = done { m with memory := m.memory.overlay m.index.toNat bytes } := by
  have hwrite : m.memory.write m.index bytes = .ok (m.memory.overlay m.index.toNat bytes) :=
    if_pos h
  rw [storeBytes, hwrite]

theorem loadRegisters_of_room (h : m.HasRoom (x.val + 1)) :
    m.loadRegisters x = done (m.setRegisters (m.memory.slice m.index.toNat (x.val + 1))) := by
  have hread : m.memory.read m.index (x.val + 1) =
      .ok (m.memory.slice m.index.toNat (x.val + 1)) := if_pos h
  rw [loadRegisters, hread]

/-- **Bytes that were stored are loaded again**, whatever the registers are by then. -/
theorem loadRegisters_of_stored {later : Machine} {bytes : List UInt8}
    (hroom : m.HasRoom bytes.length) (hlen : bytes.length = x.val + 1)
    (hindex : later.index = m.index)
    (hmemory : later.memory = (m.storeBytes bytes).machine.memory) :
    later.loadRegisters x = done (later.setRegisters bytes) := by
  have hroom' : later.HasRoom (x.val + 1) := by
    rwa [HasRoom, hindex, ← hlen]
  have hslice : later.memory.slice later.index.toNat (x.val + 1) = bytes := by
    rw [hmemory, hindex, storeBytes_of_room m hroom, ← hlen]
    exact Memory.slice_overlay m.memory hroom
  rw [loadRegisters_of_room later hroom', hslice]

/-! ## The three instructions -/

/-- An instruction stores a block, with one byte for each register up to `x`.  Loading the
registers from there brings the block in. -/
structure StoresBlock (w : Word) (x : Register) (block : Register → UInt8) : Prop where
  result_eq : (m.carryOut w).result = .ok .next
  byteAt_block : ∀ j : Register, j.val ≤ x.val →
    (m.carryOut w).machine.memory.byteAt (m.index.toNat + j.val) = block j
  byteAt_other : ∀ a, a < m.index.toNat ∨ m.index.toNat + x.val < a →
    (m.carryOut w).machine.memory.byteAt a = m.memory.byteAt a
  /-- Nothing but memory changes. -/
  rest_eq : (m.carryOut w).machine = { m with memory := (m.carryOut w).machine.memory }
  /-- Whatever has become of the other parts, the registers above the block stay as they are by
  then. -/
  loaded : ∀ (later : Machine) (load : Word), load.Fits "Fx65" → load.x = x →
    later.index = m.index → later.memory = (m.carryOut w).machine.memory →
    (later.carryOut load).result = .ok .next ∧
      ∀ j, (later.carryOut load).machine.reg j = if j.val ≤ x.val then block j else later.reg j

/-- An instruction loads the registers up to `x`.  Storing them back changes nothing. -/
structure LoadsBlock (w : Word) (x : Register) : Prop where
  result_eq : (m.carryOut w).result = .ok .next
  reg_eq : ∀ j, (m.carryOut w).machine.reg j =
    if j.val ≤ x.val then m.memory.byteAt (m.index.toNat + j.val) else m.reg j
  /-- Nothing but registers changes. -/
  rest_eq : (m.carryOut w).machine = { m with registers := (m.carryOut w).machine.registers }
  stored_back : ∀ (later : Machine) (store : Word), store.Fits "Fx55" → store.x = x →
    later.index = m.index → later.memory = m.memory →
    (∀ j : Register, j.val ≤ x.val → later.reg j = (m.carryOut w).machine.reg j) →
    (later.carryOut store).result = .ok .next ∧ (later.carryOut store).machine.memory = m.memory

theorem storesBlock {block : Register → UInt8} {bytes : List UInt8}
    (hstore : m.carryOut w = m.storeBytes bytes) (hbytes : IsBlock x block bytes)
    (hroom : m.HasRoom (x.val + 1)) : m.StoresBlock w x block := by
  have hlen := hbytes.length_eq
  have hroom' : m.HasRoom bytes.length := by
    rwa [hlen]
  have hdone : m.carryOut w = done { m with memory := m.memory.overlay m.index.toNat bytes } :=
    hstore.trans (m.storeBytes_of_room hroom')
  have hbyte : ∀ a, (m.carryOut w).machine.memory.byteAt a =
      (Memory.placed? m.index.toNat bytes a).getD (m.memory.byteAt a) := by
    intro a
    rw [hdone]
    exact Memory.byteAt_overlay_eq m.memory hroom' a
  refine ⟨?_, ?_, ?_, ?_, ?_⟩
  · rw [hdone]
    rfl
  · intro j hj
    rw [hbyte, Memory.placed?_add, hbytes.getElem?_eq j hj]
    rfl
  · intro a ha
    rw [hbyte, Memory.placed?_eq_none (by omega)]
    rfl
  · rw [hdone]
    rfl
  · intro later load hload hx hindex hmemory
    rw [hstore] at hmemory
    have hlater : later.carryOut load = done (later.setRegisters bytes) := by
      rw [later.carryOut_load hload, hx]
      exact m.loadRegisters_of_stored hroom' hlen hindex hmemory
    rw [hlater]
    exact ⟨rfl, hbytes.reg_setRegisters later⟩

theorem loadsBlock (form : w.Fits "Fx65") (hroom : m.HasRoom (w.x.val + 1)) :
    m.LoadsBlock w w.x := by
  have hbytes := isBlock_slice m.memory m.index.toNat w.x
  have hdone : m.carryOut w =
      done (m.setRegisters (m.memory.slice m.index.toNat (w.x.val + 1))) :=
    (m.carryOut_load form).trans (m.loadRegisters_of_room hroom)
  have hreg : ∀ j, (m.carryOut w).machine.reg j =
      if j.val ≤ w.x.val then m.memory.byteAt (m.index.toNat + j.val) else m.reg j := by
    intro j
    rw [hdone]
    exact hbytes.reg_setRegisters m j
  refine ⟨?_, hreg, ?_, ?_⟩
  · rw [hdone]
    rfl
  · rw [hdone]
    rfl
  · intro later store hstore hx hindex hmemory hsame
    -- The registers of the block are the bytes that memory has there, so these are written again.
    have hlater : IsBlock w.x (fun j => m.memory.byteAt (m.index.toNat + j.val))
        (later.registersUpTo w.x) := by
      refine ⟨later.length_registersUpTo w.x, fun j hj => ?_⟩
      rw [(later.isBlock_registersUpTo w.x).getElem?_eq j hj, hsame j hj, hreg, if_pos hj]
    have hroom' : later.HasRoom (later.registersUpTo w.x).length := by
      rwa [length_registersUpTo, HasRoom, hindex]
    rw [later.carryOut_store hstore, hx, later.storeBytes_of_room hroom']
    refine ⟨rfl, ?_⟩
    show later.memory.overlay later.index.toNat (later.registersUpTo w.x) = m.memory
    rw [hmemory, hindex, hlater.unique hbytes]
    exact m.memory.overlay_slice hroom

/-- The decimal digits of a byte. -/
structure Decimal (b hundreds tens ones : UInt8) : Prop where
  hundreds_le : hundreds.toNat ≤ 9
  tens_le : tens.toNat ≤ 9
  ones_le : ones.toNat ≤ 9
  value_eq : 100 * hundreds.toNat + 10 * tens.toNat + ones.toNat = b.toNat

theorem decimal (b : UInt8) : Decimal b (b / 100) (b / 10 % 10) (b % 10) := by
  have hlt := b.toNat_lt
  have hundreds : (b / 100).toNat = b.toNat / 100 := UInt8.toNat_div ..
  have tens : (b / 10 % 10).toNat = b.toNat / 10 % 10 := by
    rw [UInt8.toNat_mod, UInt8.toNat_div]
    rfl
  have ones : (b % 10).toNat = b.toNat % 10 := UInt8.toNat_mod ..
  constructor
  · omega
  · omega
  · omega
  · omega

/-- Blocks of registers and of digits, as the instructions carry them to memory and back. -/
structure CarriesBlocks (w : Word) : Prop where
  store : w.Fits "Fx55" → m.HasRoom (w.x.val + 1) → m.StoresBlock w w.x m.reg
  load : w.Fits "Fx65" → m.HasRoom (w.x.val + 1) → m.LoadsBlock w w.x
  decimal : w.Fits "Fx33" → m.HasRoom 3 →
    ∃ digits : Register → UInt8,
      Decimal (m.reg w.x) (digits 0) (digits 1) (digits 2) ∧ m.StoresBlock w 2 digits
  /-- A step that reads the word does just that, with the program counter behind it. -/
  step_eq : m.Reads w → (m.advance.carryOut w).result = .ok .next → m.step = m.advance.carryOut w

/-- **Blocks go to memory and come back**, whatever the machine is and wherever they lie. -/
theorem carriesBlocks (w : Word) : m.CarriesBlocks w where
  store form hroom := m.storesBlock (m.carryOut_store form) (m.isBlock_registersUpTo w.x) hroom
  load form hroom := m.loadsBlock form hroom
  decimal form hroom := by
    refine ⟨fun j => (decimalDigits (m.reg w.x)).getD j.val 0, decimal (m.reg w.x), ?_⟩
    exact m.storesBlock (m.carryOut_ldDecimal form) (isBlock_decimalDigits (m.reg w.x)) hroom
  step_eq := m.step_eq_carryOut

/-- A machine whose index register points to the third byte from the end. -/
def pointingToEnd : Machine :=
  { (fresh 0).setReg 5 254 with index := 0xFFD }

/-- A block may end with the last byte, which is one of the frame. -/
theorem carriesBlocks_pointingToEnd :
    pointingToEnd.StoresBlock 0xF255 2 pointingToEnd.reg ∧ pointingToEnd.LoadsBlock 0xF265 2 ∧
      ∃ digits : Register → UInt8, Decimal 254 (digits 0) (digits 1) (digits 2) ∧
        pointingToEnd.StoresBlock 0xF533 2 digits := by
  refine ⟨?_, ?_, ?_⟩
  · exact (pointingToEnd.carriesBlocks 0xF255).store (by decide) (by decide)
  · exact (pointingToEnd.carriesBlocks 0xF265).load (by decide) (by decide)
  · exact (pointingToEnd.carriesBlocks 0xF533).decimal (by decide) (by decide)

end Chip8.Machine
