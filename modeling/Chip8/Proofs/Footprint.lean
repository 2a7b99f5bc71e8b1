import Chip8.Proofs.FaultRules
import Chip8.Proofs.Forms
import Chip8.Proofs.Parts

/-!
# Footprints

What a step may change can be told from the digits of the word at the program
counter, and for memory from where the index register points; all else stays
as it was.  `Part.forms` names for each part of a machine the forms of the words
that change it.  Of memory and of the registers no word changes the whole:
`Word.WritesByte` and `Word.WritesRegister` say which bytes and which registers.

The program counter moves on by itself.  It goes elsewhere under a jump, and
one instruction further under a skip, exactly if the condition of the skip
holds in the machine before the step.

## Main definitions

* `Part.forms`: the words that change a part
* `Word.WritesByte`, `Word.WritesRegister`: the bytes and registers changed
* `Machine.Skips`: the conditions of the skips
* `Footprint`: what a word leaves alone, and where it leads

## Main results

* `execute_same`, `execute_byteAt`, `execute_reg`: an instruction changes no parts
  but those that its word names, nor other bytes and registers of these
* `step_footprint`: a step that is done has the footprint of its word
-/

namespace Chip8

/-! ## The table -/

namespace Part

/-- The forms of the words that jump. -/
def jumps : List String :=
  ["1nnn", "2nnn", "00EE", "Bnnn"]

/-- The forms of the words that change a part.  The program counter moves on under every word, and
is changed by those that may lead it elsewhere. -/
def forms : Part → List String
  | memory => ["00E0", "Dxyn", "Fx33", "Fx55"]
  | registers =>
    ["6xkk", "7xkk", "8xy0", "8xy1", "8xy2", "8xy3", "Cxkk", "Fx07", "Fx0A",
     "8xy4", "8xy5", "8xy6", "8xy7", "8xyE", "Dxyn", "Fx65"]
  | index => ["Annn", "Fx1E", "Fx29"]
  | pc => jumps ++ ["3xkk", "4xkk", "5xy0", "9xy0", "Ex9E", "ExA1"]
  | stack => ["2nnn", "00EE"]
  | delay => ["Fx15"]
  | sound => ["Fx18"]
  | keypad => []
  | random => ["Cxkk"]

end Part

/-- The bytes that a word may change, by where the index register points. -/
inductive Word.WritesByte (w : Word) (index : Nat) : Nat → Prop
  /-- Clearing and drawing keep to the frame. -/
  | frame {a : Nat} (form : w.FitsOneOf ["00E0", "Dxyn"]) (lower : 0xF00 ≤ a) (upper : a ≤ 0xFFF) :
      WritesByte w index a
  | decimal {a : Nat} (form : w.Fits "Fx33") (lower : index ≤ a) (upper : a < index + 3) :
      WritesByte w index a
  | store {a : Nat} (form : w.Fits "Fx55") (lower : index ≤ a) (upper : a < index + (w.x.val + 1)) :
      WritesByte w index a

/-- The registers that a word may change. -/
inductive Word.WritesRegister (w : Word) : Register → Prop
  | result
      (form : w.FitsOneOf
        ["6xkk", "7xkk", "8xy0", "8xy1", "8xy2", "8xy3", "Cxkk", "Fx07", "Fx0A"]) :
      WritesRegister w w.x
  | flagged (form : w.FitsOneOf ["8xy4", "8xy5", "8xy6", "8xy7", "8xyE"]) : WritesRegister w w.x
  | flag (form : w.FitsOneOf ["8xy4", "8xy5", "8xy6", "8xy7", "8xyE", "Dxyn"]) :
      WritesRegister w 0xF
  | load {j : Register} (form : w.Fits "Fx65") (le : j.val ≤ w.x.val) : WritesRegister w j

/-- A code names a key that is down; codes above fifteen name no key. -/
def Keypad.Held (p : Keypad) (code : UInt8) : Prop :=
  code.toNat ≤ 15 ∧ p.mask.toNat.testBit code.toNat = true

/-- A word skips the next instruction. -/
inductive Machine.Skips (m : Machine) (w : Word) : Prop
  | equalsByte (form : w.Fits "3xkk") (holds : m.reg w.x = w.byte)
  | differsFromByte (form : w.Fits "4xkk") (holds : m.reg w.x ≠ w.byte)
  | equals (form : w.Fits "5xy0") (holds : m.reg w.x = m.reg w.y)
  | differs (form : w.Fits "9xy0") (holds : m.reg w.x ≠ m.reg w.y)
  | keyDown (form : w.Fits "Ex9E") (holds : m.keypad.Held (m.reg w.x))
  | keyUp (form : w.Fits "ExA1") (holds : ¬ m.keypad.Held (m.reg w.x))

/-- A word that does nothing: a machine code routine, or a word that stands for no instruction. -/
def Word.Inert (w : Word) : Prop :=
  (w.Fits "0nnn" ∧ ¬ w.Fits "00E0" ∧ ¬ w.Fits "00EE") ∨ w.Undefined

/-- What a word leaves alone in a machine, and where it leads. -/
structure Footprint (w : Word) (m after : Machine) : Prop where
  /-- But for the program counter, which moved on, the parts are those before the step. -/
  part_eq : ∀ p : Part, ¬ w.FitsOneOf p.forms → p.Same { m with pc := m.pc + 2 } after
  byte_eq : ∀ a, ¬ w.WritesByte m.index.toNat a → after.memory.byteAt a = m.memory.byteAt a
  reg_eq : ∀ j, ¬ w.WritesRegister j → after.reg j = m.reg j
  skip_pc : m.Skips w → after.pc.toNat = m.pc.toNat + 4
  next_pc : ¬ m.Skips w → ¬ w.FitsOneOf Part.jumps → after.pc.toNat = m.pc.toNat + 2
  jump_pc : w.FitsOneOf ["1nnn", "2nnn"] → after.pc.toNat = w.address.val
  offset_pc : w.Fits "Bnnn" → after.pc.toNat = (m.reg 0).toNat + w.address.val
  return_pc : w.Fits "00EE" → m.pending.getLast? = some after.pc
  inert_eq : w.Inert → after = { m with pc := m.pc + 2 }

/-! ## Parts that stay -/

/-- An instruction changes a part only if the form of its word is among those that do. -/
theorem Word.StandsFor.fits_forms {w : Word} {i : Instruction} {p : Part} (h : w.StandsFor i)
    (hp : p ∈ i.parts) : w.FitsOneOf p.forms := by
  cases h with
  | sys => cases hp
  | ret form | call form | rnd form | drw form =>
    rcases List.mem_cons.mp hp with rfl | hp'
    · exact ⟨_, by decide, form⟩
    · obtain rfl := List.mem_singleton.mp hp'
      exact ⟨_, by decide, form⟩
  | _ form =>
    obtain rfl := List.mem_singleton.mp hp
    exact ⟨_, by decide, form⟩

namespace Machine

/-- A part stays that the word of an instruction does not name. -/
theorem execute_same {w : Word} {p : Part} (h : ¬ w.FitsOneOf p.forms) (m : Machine) :
    p.Same m (m.execute (Instruction.decode w)).machine := by
  refine execute_onlyIn m _ p fun hp => ?_
  rcases Word.standsFor_decode w with hi | hi
  · rw [hi] at hp
    cases hp
  · exact h (hi.fits_forms hp)

end Machine

/-! ## Bytes of memory that stay -/

namespace Memory

theorem byteAt_overlay_of_not_mem (m : Memory) {a c : Nat} {data : List UInt8}
    (hle : a + data.length ≤ size) (h : ¬ (a ≤ c ∧ c < a + data.length)) :
    (m.overlay a data).byteAt c = m.byteAt c := by
  rw [byteAt_overlay m a c data hle, if_neg h]

theorem byteAt_clearFrame_of_not_mem (m : Memory) {a : Nat} (h : ¬ (0xF00 ≤ a ∧ a ≤ 0xFFF)) :
    m.clearFrame.byteAt a = m.byteAt a := by
  have hlen : (List.replicate frameSize (0 : UInt8)).length = 256 := List.length_replicate
  refine byteAt_overlay_of_not_mem m ?_ ?_
  · rw [hlen]
    decide
  · rw [hlen]
    show ¬ (3840 ≤ a ∧ a < 3840 + 256)
    omega

theorem byteAt_flipPixel_of_not_mem (m : Memory) (i : Nat) {a : Nat}
    (h : ¬ (0xF00 ≤ a ∧ a ≤ 0xFFF)) : (m.flipPixel i).byteAt a = m.byteAt a := by
  by_cases hlt : a < 0xF00
  · exact byteAt_flipPixel_of_lt m i hlt
  · -- Above the frame there is no memory.
    have hsize : size ≤ a := by
      show 4096 ≤ a
      omega
    rw [byteAt_of_size_le _ hsize, byteAt_of_size_le _ hsize]

end Memory

/-- Drawing changes no byte outside the frame. -/
theorem Sprite.byteAt_flipAll (collision : Bool) (m : Memory) (is : List Nat) {a : Nat}
    (h : ¬ (0xF00 ≤ a ∧ a ≤ 0xFFF)) :
    (flipAll collision m is).1.byteAt a = m.byteAt a := by
  induction is generalizing collision m with
  | nil => rfl
  | cons i is ih => exact (ih _ _).trans (Memory.byteAt_flipPixel_of_not_mem m i h)

namespace Machine

theorem byteAt_storeBytes (m : Machine) {data : List UInt8} {a : Nat}
    (h : ¬ (m.index.toNat ≤ a ∧ a < m.index.toNat + data.length)) :
    (m.storeBytes data).machine.memory.byteAt a = m.memory.byteAt a := by
  unfold storeBytes Memory.write
  by_cases hle : m.index.toNat + data.length ≤ Memory.size
  · rw [if_pos hle]
    exact Memory.byteAt_overlay_of_not_mem m.memory hle h
  · rw [if_neg hle]
    rfl

theorem byteAt_drawSprite (m : Machine) (x y : Register) (n : Nibble) {a : Nat}
    (h : ¬ (0xF00 ≤ a ∧ a ≤ 0xFFF)) :
    (m.drawSprite x y n).machine.memory.byteAt a = m.memory.byteAt a := by
  unfold drawSprite
  split
  · exact Sprite.byteAt_flipAll false m.memory _ h
  · rfl

/-- **An instruction changes no bytes but those that its word names.** -/
theorem execute_byteAt {w : Word} (m : Machine) {a : Nat}
    (h : ¬ w.WritesByte m.index.toNat a) :
    (m.execute (Instruction.decode w)).machine.memory.byteAt a = m.memory.byteAt a := by
  have hframe : w.FitsOneOf ["00E0", "Dxyn"] → ¬ (0xF00 ≤ a ∧ a ≤ 0xFFF) := by
    rintro form ⟨hlow, hup⟩
    exact h (.frame form hlow hup)
  by_cases hforms : w.FitsOneOf (Part.forms .memory)
  · simp only [Part.forms, Word.fitsOneOf_cons, Word.fitsOneOf_nil, or_false] at hforms
    rcases hforms with form | form | form | form
    · have hout := hframe ⟨_, by decide, form⟩
      rw [Word.decode_of_standsFor (.cls form), execute, done,
        Memory.byteAt_clearFrame_of_not_mem m.memory hout]
    · rw [Word.decode_of_standsFor (.drw form)]
      exact byteAt_drawSprite m _ _ _ (hframe ⟨_, by decide, form⟩)
    · rw [Word.decode_of_standsFor (.ldDecimal form)]
      refine byteAt_storeBytes m ?_
      rintro ⟨hlow, hup⟩
      exact h (.decimal form hlow hup)
    · rw [Word.decode_of_standsFor (.store form)]
      refine byteAt_storeBytes m ?_
      rintro ⟨hlow, hup⟩
      rw [length_registersUpTo] at hup
      exact h (.store form hlow hup)
  · -- No other word touches memory at all.
    have hsame : (m.execute (Instruction.decode w)).machine.memory = m.memory :=
      execute_same (p := .memory) hforms m
    rw [hsame]

/-! ## Registers that stay -/

theorem reg_setReg_of_ne (m : Machine) {x j : Register} (h : j ≠ x) (b : UInt8) :
    (m.setReg x b).reg j = m.reg j := by
  rw [reg_setReg, if_neg h]

theorem reg_setFlagged_of_ne (m : Machine) {x j : Register} (hx : j ≠ x) (hflag : j ≠ 0xF)
    (b : UInt8) (flag : Bool) : (m.setFlagged x b flag).reg j = m.reg j := by
  rw [setFlagged, reg_setReg_of_ne _ hflag, reg_setReg_of_ne _ hx]

theorem reg_setRegisters (m : Machine) (values : List UInt8) (j : Register) :
    (m.setRegisters values).reg j = (values[j.val]?).getD (m.reg j) := by
  rw [← List.getD_eq_getElem?_getD]
  exact Bank.get_ofFn ..

theorem reg_setRegisters_of_le (m : Machine) {values : List UInt8} {j : Register}
    (h : values.length ≤ j.val) : (m.setRegisters values).reg j = m.reg j := by
  rw [reg_setRegisters, List.getElem?_eq_none h]
  rfl

theorem reg_loadRegisters (m : Machine) {x j : Register} (h : ¬ j.val ≤ x.val) :
    (m.loadRegisters x).machine.reg j = m.reg j := by
  unfold loadRegisters Memory.read
  by_cases hle : m.index.toNat + (x.val + 1) ≤ Memory.size
  · rw [if_pos hle]
    refine reg_setRegisters_of_le m ?_
    rw [Memory.length_slice]
    omega
  · rw [if_neg hle]
    rfl

theorem reg_drawSprite (m : Machine) (x y : Register) (n : Nibble) {j : Register} (h : j ≠ 0xF) :
    (m.drawSprite x y n).machine.reg j = m.reg j := by
  unfold drawSprite
  split
  · exact reg_setReg_of_ne _ h _
  · rfl

theorem reg_awaitKey (m : Machine) {x j : Register} (h : j ≠ x) :
    (m.awaitKey x).machine.reg j = m.reg j := by
  unfold awaitKey
  split
  · exact reg_setReg_of_ne _ h _
  · rfl

/-- **An instruction changes no registers but those that its word names.** -/
theorem execute_reg {w : Word} (m : Machine) {j : Register} (h : ¬ w.WritesRegister j) :
    (m.execute (Instruction.decode w)).machine.reg j = m.reg j := by
  have hresult : w.FitsOneOf ["6xkk", "7xkk", "8xy0", "8xy1", "8xy2", "8xy3", "Cxkk", "Fx07",
      "Fx0A"] → j ≠ w.x := by
    rintro form rfl
    exact h (.result form)
  have hflagged : w.FitsOneOf ["8xy4", "8xy5", "8xy6", "8xy7", "8xyE"] → j ≠ w.x := by
    rintro form rfl
    exact h (.flagged form)
  have hflag : w.FitsOneOf ["8xy4", "8xy5", "8xy6", "8xy7", "8xyE", "Dxyn"] → j ≠ 0xF := by
    rintro form rfl
    exact h (.flag form)
  rcases Word.standsFor_decode w with hi | hi
  · rw [hi]
    rfl
  · generalize Instruction.decode w = i at hi ⊢
    cases hi with
    | ldByte form | addByte form | ldReg form | or form | and form | xor form | ldFromDelay form =>
      exact reg_setReg_of_ne m (hresult ⟨_, by decide, form⟩) _
    | rnd form => exact reg_setReg_of_ne _ (hresult ⟨_, by decide, form⟩) _
    | ldKey form => exact reg_awaitKey m (hresult ⟨_, by decide, form⟩)
    | addReg form | sub form | shr form | subn form | shl form =>
      exact reg_setFlagged_of_ne m (hflagged ⟨_, by decide, form⟩) (hflag ⟨_, by decide, form⟩) _ _
    | drw form => exact reg_drawSprite m _ _ _ (hflag ⟨_, by decide, form⟩)
    | load form => exact reg_loadRegisters m fun hle => h (.load form hle)
    | _ =>
      -- The other instructions leave the registers alone, all of them.
      refine reg_execute_of_not_mem m ?_ j
      nofun

/-! ## Where the program counter goes -/

theorem skipIf_of_true (m : Machine) {condition : Bool} (h : condition = true) :
    m.skipIf condition = m.advance := by
  rw [h]
  rfl

theorem skipIf_of_not (m : Machine) {condition : Bool} (h : ¬ condition = true) :
    m.skipIf condition = m :=
  if_neg h

theorem isPressed_iff (p : Keypad) (code : UInt8) : p.isPressed code = true ↔ p.Held code := by
  unfold Keypad.isPressed Keypad.Held
  by_cases h : code.toNat < 16
  · have hle : code.toNat ≤ 15 := Nat.le_of_lt_succ h
    rw [dif_pos h, ← Keypad.testBit_mask]
    exact (and_iff_right hle).symm
  · have hle : ¬ code.toNat ≤ 15 := fun hle => h (Nat.lt_succ_of_le hle)
    simp [h, hle]

theorem execute_of_skips {m : Machine} {w : Word} (h : m.Skips w) :
    (m.advance.execute (Instruction.decode w)).machine = m.advance.advance := by
  cases h with
  | equalsByte form holds =>
    rw [Word.decode_of_standsFor (.seByte form)]
    exact skipIf_of_true m.advance (beq_iff_eq.mpr holds)
  | differsFromByte form holds =>
    rw [Word.decode_of_standsFor (.sneByte form)]
    exact skipIf_of_true m.advance (bne_iff_ne.mpr holds)
  | equals form holds =>
    rw [Word.decode_of_standsFor (.seReg form)]
    exact skipIf_of_true m.advance (beq_iff_eq.mpr holds)
  | differs form holds =>
    rw [Word.decode_of_standsFor (.sneReg form)]
    exact skipIf_of_true m.advance (bne_iff_ne.mpr holds)
  | keyDown form holds =>
    rw [Word.decode_of_standsFor (.skp form)]
    exact skipIf_of_true m.advance ((isPressed_iff _ _).mpr holds)
  | keyUp form holds =>
    rw [Word.decode_of_standsFor (.sknp form)]
    rw [← isPressed_iff, Bool.not_eq_true] at holds
    exact skipIf_of_true m.advance (congrArg not holds)

theorem execute_pc_of_not_skips {m : Machine} {w : Word} (h : ¬ m.Skips w)
    (hjump : ¬ w.FitsOneOf Part.jumps) :
    (m.advance.execute (Instruction.decode w)).machine.pc = m.advance.pc := by
  rcases Word.standsFor_decode w with hi | hi
  · rw [hi]
    rfl
  · generalize Instruction.decode w = i at hi ⊢
    cases hi with
    | ret form | jp form | call form | jpV0 form => exact absurd ⟨_, by decide, form⟩ hjump
    | seByte form =>
      exact congrArg pc (skipIf_of_not m.advance fun hc => h (.equalsByte form (beq_iff_eq.mp hc)))
    | sneByte form =>
      exact congrArg pc
        (skipIf_of_not m.advance fun hc => h (.differsFromByte form (bne_iff_ne.mp hc)))
    | seReg form =>
      exact congrArg pc (skipIf_of_not m.advance fun hc => h (.equals form (beq_iff_eq.mp hc)))
    | sneReg form =>
      exact congrArg pc (skipIf_of_not m.advance fun hc => h (.differs form (bne_iff_ne.mp hc)))
    | skp form =>
      exact congrArg pc
        (skipIf_of_not m.advance fun hc => h (.keyDown form ((isPressed_iff _ _).mp hc)))
    | sknp form =>
      refine congrArg pc (skipIf_of_not m.advance fun hc => h (.keyUp form ?_))
      rw [← isPressed_iff, Bool.not_eq_true]
      exact Bool.not_eq_true' _ |>.mp hc
    | _ => exact pc_execute_of_not_mem m.advance nofun

theorem pc_call_of_next {m : Machine} {target : Address}
    (h : (m.call target).result = .ok .next) : (m.call target).machine.pc.toNat = target.val := by
  by_cases hdepth : m.depth.val < 16
  · rw [call, dif_pos hdepth]
    exact toNat_ofNat_address target
  · rw [call_result, if_neg hdepth] at h
    cases h

theorem getLast?_pending_of_ret {m : Machine} (h : m.ret.result = .ok .next) :
    m.pending.getLast? = some m.ret.machine.pc := by
  by_cases hdepth : 0 < m.depth.val
  · rw [pending_ret hdepth, List.getLast?_concat]
  · rw [ret_result, if_neg hdepth] at h
    cases h

/-! ## Steps -/

theorem execute_of_inert {w : Word} (h : w.Inert) (m : Machine) :
    (m.execute (Instruction.decode w)).machine = m := by
  rcases h with ⟨form, hcls, hret⟩ | h
  · rw [Word.decode_of_standsFor (.sys form hcls hret)]
    rfl
  · rw [Word.undefined_iff.mp h]
    rfl

/-- An instruction that is done has the footprint of its word. -/
theorem footprint_execute {m : Machine} {w : Word} (hw : m.Reads w)
    (h : (m.advance.execute (Instruction.decode w)).result = .ok .next) :
    Footprint w m (m.advance.execute (Instruction.decode w)).machine where
  part_eq p hp := execute_same hp m.advance
  byte_eq a ha := execute_byteAt m.advance ha
  reg_eq j hj := execute_reg m.advance hj
  skip_pc hskip := by
    -- Fetching a word leaves the program counter far from where it would wrap around.
    have hlt := hw.inside
    rw [execute_of_skips hskip]
    show (m.pc + 2 + 2).toNat = m.pc.toNat + 4
    rw [UInt16.toNat_add, UInt16.toNat_add]
    show ((m.pc.toNat + 2) % 65536 + 2) % 65536 = _
    omega
  next_pc hskip hjump := by
    rw [execute_pc_of_not_skips hskip hjump]
    exact toNat_pc_advance ((fetch_eq_ok_iff m w).mpr hw)
  jump_pc form := by
    simp only [Word.fitsOneOf_cons, Word.fitsOneOf_nil, or_false] at form
    rcases form with form | form
    · rw [Word.decode_of_standsFor (.jp form)]
      exact toNat_ofNat_address _
    · -- A call that is done found a place on the stack.
      rw [Word.decode_of_standsFor (.call form)] at h ⊢
      exact pc_call_of_next h
  offset_pc form := by
    have hv := (m.reg 0).toNat_lt
    have ha := w.address.isLt
    rw [Word.decode_of_standsFor (.jpV0 form)]
    show ((m.reg 0).toNat + w.address.val) % 65536 = _
    omega
  return_pc form := by
    rw [Word.decode_of_standsFor (.ret form)] at h ⊢
    exact getLast?_pending_of_ret h
  inert_eq hinert := execute_of_inert hinert m.advance

/-- **A step that is done has the footprint of the word** at the program counter. -/
theorem step_footprint (m : Machine) (h : m.step.result = .ok .next) :
    ∃ w, m.Reads w ∧ Footprint w m m.step.machine := by
  obtain ⟨w, hw, hstep⟩ := step_of_next h
  have hreads := (fetch_eq_ok_iff m w).mp hw
  refine ⟨w, hreads, ?_⟩
  rw [hstep] at h ⊢
  exact footprint_execute hreads h

/-- A machine about to load three registers, with rows of the font. -/
def loadingRegisters : Machine :=
  (fresh 0).performAll [.load { bytes := [0xF2, 0x65] }]

theorem step_footprint_loadingRegisters :
    loadingRegisters.step.result = .ok .next ∧
      ∃ w, loadingRegisters.Reads w ∧ Footprint w loadingRegisters loadingRegisters.step.machine := by
  have hreads : loadingRegisters.Reads 0xF265 :=
    ⟨by decide +kernel, by decide +kernel, by decide +kernel⟩
  have hdecode : Instruction.decode 0xF265 = .load 2 := rfl
  have hfault : loadingRegisters.faultOf? (.load 2) = none := by decide +kernel
  have h : loadingRegisters.step.result = .ok .next := by
    rw [step_result, (fetch_eq_ok_iff _ _).mpr hreads, Except.bind, hdecode,
      resultOf_of_none hfault]
    rfl
  exact ⟨h, step_footprint loadingRegisters h⟩

end Machine

end Chip8
