import Chip8.Instruction.Decode
import Chip8.Text.Hex

/-!
# The forms of words

The instruction set is usually told as a table of forms, such as `8xy4` or
`Fx0A`: four characters for the four digits of a word, of which the upper-case
digits stand for themselves and all other letters for any digit.  A word fits
one form at most, but for `00E0` and `00EE`, which fit `0nnn` as well and take
precedence over it; and many words fit none.

`Word.StandsFor` is the table.  Decoding goes by it: the decoder takes a word
apart in its own order, kinds first and then what tells the instructions of a
kind apart, and `decode_eq_iff` says that it comes to the same.

## Main definitions

* `Word.Fits`, `Word.FitsOneOf`: words that have a form
* `Word.StandsFor`: the instruction set as a table
* `Word.Undefined`: words that stand for nothing

## Main results

* `Word.decode_eq_iff`: decoding goes by the table
-/

namespace Chip8

/-- Digits are as a form asks, one by one. -/
def DigitsFit : List Char → List Nat → Prop
  | c :: form, d :: digits =>
    (match Hex.digitValue? c with
      | some v => d = v
      | none => True) ∧ DigitsFit form digits
  | [], [] => True
  | _, _ => False

instance decidableDigitsFit :
    (form : List Char) → (digits : List Nat) → Decidable (DigitsFit form digits)
  | c :: form, d :: digits =>
    have : Decidable (match Hex.digitValue? c with
        | some v => d = v
        | none => True) :=
      match Hex.digitValue? c with
      | some v => inferInstanceAs (Decidable (d = v))
      | none => inferInstanceAs (Decidable True)
    have := decidableDigitsFit form digits
    inferInstanceAs (Decidable (_ ∧ _))
  | [], [] => inferInstanceAs (Decidable True)
  | [], _ :: _ | _ :: _, [] => inferInstanceAs (Decidable False)

namespace Word

/-- A word has a form. -/
def Fits (w : Word) (form : String) : Prop :=
  DigitsFit form.toList w.nibbles

instance (w : Word) (form : String) : Decidable (w.Fits form) :=
  inferInstanceAs (Decidable (DigitsFit _ _))

/-- A word has one of several forms. -/
def FitsOneOf (w : Word) (forms : List String) : Prop :=
  ∃ form ∈ forms, w.Fits form

/-- The instruction set as a table: the instruction that a word stands for, by its form. -/
inductive StandsFor (w : Word) : Instruction → Prop
  | cls (form : w.Fits "00E0") : StandsFor w .cls
  | ret (form : w.Fits "00EE") : StandsFor w .ret
  | sys (form : w.Fits "0nnn") (notCls : ¬ w.Fits "00E0") (notRet : ¬ w.Fits "00EE") :
      StandsFor w (.sys w.address)
  | jp (form : w.Fits "1nnn") : StandsFor w (.jp w.address)
  | call (form : w.Fits "2nnn") : StandsFor w (.call w.address)
  | seByte (form : w.Fits "3xkk") : StandsFor w (.seByte w.x w.byte)
  | sneByte (form : w.Fits "4xkk") : StandsFor w (.sneByte w.x w.byte)
  | seReg (form : w.Fits "5xy0") : StandsFor w (.seReg w.x w.y)
  | ldByte (form : w.Fits "6xkk") : StandsFor w (.ldByte w.x w.byte)
  | addByte (form : w.Fits "7xkk") : StandsFor w (.addByte w.x w.byte)
  | ldReg (form : w.Fits "8xy0") : StandsFor w (.ldReg w.x w.y)
  | or (form : w.Fits "8xy1") : StandsFor w (.or w.x w.y)
  | and (form : w.Fits "8xy2") : StandsFor w (.and w.x w.y)
  | xor (form : w.Fits "8xy3") : StandsFor w (.xor w.x w.y)
  | addReg (form : w.Fits "8xy4") : StandsFor w (.addReg w.x w.y)
  | sub (form : w.Fits "8xy5") : StandsFor w (.sub w.x w.y)
  | shr (form : w.Fits "8xy6") : StandsFor w (.shr w.x w.y)
  | subn (form : w.Fits "8xy7") : StandsFor w (.subn w.x w.y)
  | shl (form : w.Fits "8xyE") : StandsFor w (.shl w.x w.y)
  | sneReg (form : w.Fits "9xy0") : StandsFor w (.sneReg w.x w.y)
  | ldIndex (form : w.Fits "Annn") : StandsFor w (.ldIndex w.address)
  | jpV0 (form : w.Fits "Bnnn") : StandsFor w (.jpV0 w.address)
  | rnd (form : w.Fits "Cxkk") : StandsFor w (.rnd w.x w.byte)
  | drw (form : w.Fits "Dxyn") : StandsFor w (.drw w.x w.y w.n)
  | skp (form : w.Fits "Ex9E") : StandsFor w (.skp w.x)
  | sknp (form : w.Fits "ExA1") : StandsFor w (.sknp w.x)
  | ldFromDelay (form : w.Fits "Fx07") : StandsFor w (.ldFromDelay w.x)
  | ldKey (form : w.Fits "Fx0A") : StandsFor w (.ldKey w.x)
  | ldDelay (form : w.Fits "Fx15") : StandsFor w (.ldDelay w.x)
  | ldSound (form : w.Fits "Fx18") : StandsFor w (.ldSound w.x)
  | addIndex (form : w.Fits "Fx1E") : StandsFor w (.addIndex w.x)
  | ldGlyph (form : w.Fits "Fx29") : StandsFor w (.ldGlyph w.x)
  | ldDecimal (form : w.Fits "Fx33") : StandsFor w (.ldDecimal w.x)
  | store (form : w.Fits "Fx55") : StandsFor w (.store w.x)
  | load (form : w.Fits "Fx65") : StandsFor w (.load w.x)

/-- A word that stands for no instruction. -/
def Undefined (w : Word) : Prop :=
  ∀ i, ¬ w.StandsFor i

@[simp] theorem fitsOneOf_nil {w : Word} : ¬ w.FitsOneOf [] := by
  rintro ⟨form, hmem, -⟩
  cases hmem

@[simp] theorem fitsOneOf_cons {w : Word} {form : String} {forms : List String} :
    w.FitsOneOf (form :: forms) ↔ w.Fits form ∨ w.FitsOneOf forms := by
  simp only [FitsOneOf, List.mem_cons, or_and_right, exists_or, exists_eq_left]

/-! ## Digits -/

/-- The low byte has two digits. -/
theorem digits_of_byte {w : Word} {b : Nat} (h : w.toNat % 256 = b) :
    (y w).val = b / 16 ∧ (n w).val = b % 16 := by
  rw [y, n, Nibble.val_low, Nibble.val_low]
  omega

theorem toNat_mod_byte (w : Word) : w.toNat % 256 = 16 * (y w).val + (n w).val := by
  rw [y, n, Nibble.val_low, Nibble.val_low]
  omega

/-- The low twelve bits have three digits. -/
theorem digits_of_address {w : Word} {a : Nat} (h : (address w).val = a) :
    (x w).val = a / 256 ∧ (y w).val = a / 16 % 16 ∧ (n w).val = a % 16 := by
  rw [address, Address.val_low] at h
  rw [x, y, n, Nibble.val_low, Nibble.val_low, Nibble.val_low]
  omega

theorem val_address (w : Word) :
    (address w).val = 256 * (x w).val + 16 * (y w).val + (n w).val := by
  rw [address, Address.val_low, x, y, n, Nibble.val_low, Nibble.val_low, Nibble.val_low]
  omega

theorem fits_cls_iff {w : Word} (hk : w.kind = 0) : w.Fits "00E0" ↔ w.address.val = 0x0E0 := by
  constructor
  · rintro ⟨-, (hx : w.x.val = 0x0), (hy : w.y.val = 0xE), (hn : w.n.val = 0x0), -⟩
    rw [val_address, hx, hy, hn]
  · intro h
    obtain ⟨hx, hy, hn⟩ := digits_of_address h
    exact ⟨hk, hx, hy, hn, trivial⟩

theorem fits_ret_iff {w : Word} (hk : w.kind = 0) : w.Fits "00EE" ↔ w.address.val = 0x0EE := by
  constructor
  · rintro ⟨-, (hx : w.x.val = 0x0), (hy : w.y.val = 0xE), (hn : w.n.val = 0xE), -⟩
    rw [val_address, hx, hy, hn]
  · intro h
    obtain ⟨hx, hy, hn⟩ := digits_of_address h
    exact ⟨hk, hx, hy, hn, trivial⟩

/-! ## Decoding goes by the table -/

theorem standsFor_decodeSystem {w : Word} (hk : w.kind = 0) :
    w.StandsFor (Instruction.decodeSystem w) := by
  unfold Instruction.decodeSystem
  split
  · next h => exact .cls ((fits_cls_iff hk).mpr h)
  · next hcls =>
    split
    · next h => exact .ret ((fits_ret_iff hk).mpr h)
    · next hret =>
      refine .sys ⟨hk, trivial, trivial, trivial, trivial⟩ ?_ ?_
      · rwa [fits_cls_iff hk]
      · rwa [fits_ret_iff hk]

theorem standsFor_decodeArithmetic {w : Word} (hk : w.kind = 8) :
    Instruction.decodeArithmetic w = .unknown w ∨ w.StandsFor (Instruction.decodeArithmetic w) := by
  unfold Instruction.decodeArithmetic
  split
  -- The last digit is one of nine, or the word stands for nothing.
  case h_10 => exact .inl rfl
  all_goals
    right
    constructor
    exact ⟨hk, trivial, trivial, by assumption, trivial⟩

theorem standsFor_decodeKeypad {w : Word} (hk : w.kind = 14) :
    Instruction.decodeKeypad w = .unknown w ∨ w.StandsFor (Instruction.decodeKeypad w) := by
  unfold Instruction.decodeKeypad
  rw [toNat_byte]
  split
  case h_3 => exact .inl rfl
  all_goals
    right
    constructor
    obtain ⟨hy, hn⟩ := digits_of_byte (w := w) (by assumption)
    exact ⟨hk, trivial, hy, hn, trivial⟩

theorem standsFor_decodeDevice {w : Word} (hk : w.kind = 15) :
    Instruction.decodeDevice w = .unknown w ∨ w.StandsFor (Instruction.decodeDevice w) := by
  unfold Instruction.decodeDevice
  rw [toNat_byte]
  split
  case h_10 => exact .inl rfl
  all_goals
    right
    constructor
    obtain ⟨hy, hn⟩ := digits_of_byte (w := w) (by assumption)
    exact ⟨hk, trivial, hy, hn, trivial⟩

theorem standsFor_decode (w : Word) :
    Instruction.decode w = .unknown w ∨ w.StandsFor (Instruction.decode w) := by
  have hlt := Instruction.kind_lt w
  unfold Instruction.decode
  split
  -- First the four kinds that are told apart further, and the two that ask for a zero at the end.
  case h_1 hk => exact .inr (standsFor_decodeSystem hk)
  case h_9 hk => exact standsFor_decodeArithmetic hk
  case h_15 hk => exact standsFor_decodeKeypad hk
  case h_16 =>
    refine standsFor_decodeDevice ?_
    simp only [imp_false] at *
    omega
  case h_6 hk =>
    split
    · next hn => exact .inr (.seReg ⟨hk, trivial, trivial, hn, trivial⟩)
    · exact .inl rfl
  case h_10 hk =>
    split
    · next hn => exact .inr (.sneReg ⟨hk, trivial, trivial, hn, trivial⟩)
    · exact .inl rfl
  all_goals
    right
    constructor
    exact ⟨by assumption, trivial, trivial, trivial, trivial⟩

theorem decode_of_system {w : Word} (hk : w.kind = 0) :
    Instruction.decode w = Instruction.decodeSystem w := by
  rw [Instruction.decode, hk]
  rfl

theorem decode_of_standsFor {w : Word} {i : Instruction} (h : w.StandsFor i) :
    Instruction.decode w = i := by
  have hbyte := toNat_mod_byte w
  cases h with
  | cls form =>
    rw [decode_of_system form.1]
    exact if_pos ((fits_cls_iff form.1).mp form)
  | ret form =>
    have hcls : ¬ w.address.val = 0x0E0 := by
      rw [(fits_ret_iff form.1).mp form]
      decide
    rw [decode_of_system form.1, Instruction.decodeSystem, if_neg hcls]
    exact if_pos ((fits_ret_iff form.1).mp form)
  | sys form hcls hret =>
    rw [fits_cls_iff form.1] at hcls
    rw [fits_ret_iff form.1] at hret
    rw [decode_of_system form.1, Instruction.decodeSystem, if_neg hcls, if_neg hret]
  -- From here on the digits that the form fixes are the ones that the decoder looks at.
  | ldReg form | or form | and form | xor form | addReg form | sub form | shr form | subn form
  | shl form =>
    simp [Fits, DigitsFit, nibbles, Hex.digitValue?] at form
    simp [Instruction.decode, Instruction.decodeArithmetic, form]
  | skp form | sknp form =>
    simp [Fits, DigitsFit, nibbles, Hex.digitValue?] at form
    simp [Instruction.decode, Instruction.decodeKeypad, hbyte, form]
  | ldFromDelay form | ldKey form | ldDelay form | ldSound form | addIndex form | ldGlyph form
  | ldDecimal form | store form | load form =>
    simp [Fits, DigitsFit, nibbles, Hex.digitValue?] at form
    simp [Instruction.decode, Instruction.decodeDevice, hbyte, form]
  | _ form =>
    simp [Fits, DigitsFit, nibbles, Hex.digitValue?] at form
    simp [Instruction.decode, form]

theorem undefined_iff {w : Word} : w.Undefined ↔ Instruction.decode w = .unknown w := by
  constructor
  · intro h
    exact (standsFor_decode w).resolve_right (h _)
  · intro h i hi
    -- A word of the table decodes to an instruction of the table, and `unknown` is none.
    rw [decode_of_standsFor hi] at h
    subst h
    cases hi

/-- **Decoding goes by the table**: to the instruction that a word stands for, and to `unknown`
where it stands for none. -/
theorem decode_eq_iff (w : Word) (i : Instruction) :
    Instruction.decode w = i ↔ w.StandsFor i ∨ (i = .unknown w ∧ w.Undefined) := by
  constructor
  · rintro rfl
    rcases standsFor_decode w with h | h
    · exact .inr ⟨h, undefined_iff.mpr h⟩
    · exact .inl h
  · rintro (h | ⟨rfl, h⟩)
    · exact decode_of_standsFor h
    · exact undefined_iff.mp h

end Word

end Chip8
