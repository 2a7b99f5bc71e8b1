import Chip8.Instruction.Assembly

/-!
# Reading assembly text

The way back from text to instructions, in the two steps of writing:
`Line.ofChars?` takes a text apart, and `Line.instruction?` finds the
instruction of a line.

`Instruction.ofText?_text` says that an instruction is recovered from its
text, so no two instructions are written alike.
-/

namespace Chip8

/-- The mnemonic that is spelled so. -/
def Mnemonic.ofChars? : List Char → Option Mnemonic
  | ['C', 'L', 'S'] => some .cls
  | ['R', 'E', 'T'] => some .ret
  | ['S', 'Y', 'S'] => some .sys
  | ['J', 'P'] => some .jp
  | ['C', 'A', 'L', 'L'] => some .call
  | ['S', 'E'] => some .se
  | ['S', 'N', 'E'] => some .sne
  | ['L', 'D'] => some .ld
  | ['A', 'D', 'D'] => some .add
  | ['O', 'R'] => some .or
  | ['A', 'N', 'D'] => some .and
  | ['X', 'O', 'R'] => some .xor
  | ['S', 'U', 'B'] => some .sub
  | ['S', 'H', 'R'] => some .shr
  | ['S', 'U', 'B', 'N'] => some .subn
  | ['S', 'H', 'L'] => some .shl
  | ['R', 'N', 'D'] => some .rnd
  | ['D', 'R', 'W'] => some .drw
  | ['S', 'K', 'P'] => some .skp
  | ['S', 'K', 'N', 'P'] => some .sknp
  | ['D', 'W'] => some .dw
  | _ => none

namespace Operand

/-- The register that a digit names. -/
def registerOf? (c : Char) : Option Register :=
  (Hex.digitValue? c).map Nibble.low

/-- The operand that `$` and these digits write; their number tells its kind. -/
def ofDollar? (ds : List Char) : Option Operand :=
  (Hex.value? ds).bind fun v =>
    match ds.length with
    | 1 => some (.nibble (Nibble.low v))
    | 2 => some (.byte (UInt8.ofNat v))
    | 3 => some (.data (Address.low v))
    | _ => none

/-- The operand that `0x` and these digits write. -/
def ofZeroX? (ds : List Char) : Option Operand :=
  (Hex.value? ds).bind fun v =>
    match ds.length with
    | 3 => some (.target (Address.low v))
    | 4 => some (.word (UInt16.ofNat v))
    | _ => none

/-- The operand at the start of a text, and what follows it. -/
def read? : List Char → Option (Operand × List Char)
  | 'V' :: d :: r => (registerOf? d).map fun x => (.register x, r)
  | '\x7b' :: ',' :: ' ' :: 'V' :: d :: '\x7d' :: r =>
    (registerOf? d).map fun y => (.spare y, r)
  | '$' :: r => (ofDollar? (r.takeWhile Hex.isDigit)).map fun o => (o, r.dropWhile Hex.isDigit)
  | '0' :: 'x' :: r =>
    (ofZeroX? (r.takeWhile Hex.isDigit)).map fun o => (o, r.dropWhile Hex.isDigit)
  | 'I' :: r => some (.index, r)
  | '[' :: 'I' :: ']' :: r => some (.memory, r)
  | 'D' :: 'T' :: r => some (.delay, r)
  | 'S' :: 'T' :: r => some (.sound, r)
  | 'K' :: r => some (.key, r)
  | 'F' :: r => some (.glyph, r)
  | 'B' :: r => some (.decimal, r)
  | _ => none

end Operand

namespace Line

/-- The operands after the first; `k` bounds their number. -/
def further? : Nat → List Char → Option (List Operand)
  | _, [] => some []
  | 0, _ :: _ => none
  | k + 1, ',' :: ' ' :: r =>
    (Operand.read? r).bind fun (o, rest) => (further? k rest).map fun os => o :: os
  | k + 1, ' ' :: r =>
    (Operand.read? r).bind fun (o, rest) => (further? k rest).map fun os => o :: os
  | _ + 1, _ :: _ => none

/-- All operands of a line. -/
def operands? : List Char → Option (List Operand)
  | [] => some []
  | _ :: r =>
    (Operand.read? r).bind fun (o, rest) => (further? rest.length rest).map fun os => o :: os

/-- The line that a text spells. -/
def ofChars? (cs : List Char) : Option Line :=
  (Mnemonic.ofChars? (cs.takeWhile (· ≠ ' '))).bind fun m =>
    (operands? (cs.dropWhile (· ≠ ' '))).map fun os => ⟨m, os⟩

open Instruction in
/-- The instruction of a line. -/
def instruction? : Line → Option Instruction
  | ⟨.cls, []⟩ => some cls
  | ⟨.ret, []⟩ => some ret
  | ⟨.sys, [.target a]⟩ => some (sys a)
  | ⟨.jp, [.target a]⟩ => some (jp a)
  | ⟨.jp, [.register _, .data a]⟩ => some (jpV0 a)
  | ⟨.call, [.target a]⟩ => some (call a)
  | ⟨.se, [.register x, .byte kk]⟩ => some (seByte x kk)
  | ⟨.se, [.register x, .register y]⟩ => some (seReg x y)
  | ⟨.sne, [.register x, .byte kk]⟩ => some (sneByte x kk)
  | ⟨.sne, [.register x, .register y]⟩ => some (sneReg x y)
  | ⟨.ld, [.register x, .byte kk]⟩ => some (ldByte x kk)
  | ⟨.ld, [.register x, .register y]⟩ => some (ldReg x y)
  | ⟨.ld, [.register x, .delay]⟩ => some (ldFromDelay x)
  | ⟨.ld, [.register x, .key]⟩ => some (ldKey x)
  | ⟨.ld, [.register x, .memory]⟩ => some (load x)
  | ⟨.ld, [.index, .data a]⟩ => some (ldIndex a)
  | ⟨.ld, [.delay, .register x]⟩ => some (ldDelay x)
  | ⟨.ld, [.sound, .register x]⟩ => some (ldSound x)
  | ⟨.ld, [.glyph, .register x]⟩ => some (ldGlyph x)
  | ⟨.ld, [.decimal, .register x]⟩ => some (ldDecimal x)
  | ⟨.ld, [.memory, .register x]⟩ => some (store x)
  | ⟨.add, [.register x, .byte kk]⟩ => some (addByte x kk)
  | ⟨.add, [.register x, .register y]⟩ => some (addReg x y)
  | ⟨.add, [.index, .register x]⟩ => some (addIndex x)
  | ⟨.or, [.register x, .register y]⟩ => some (.or x y)
  | ⟨.and, [.register x, .register y]⟩ => some (.and x y)
  | ⟨.xor, [.register x, .register y]⟩ => some (.xor x y)
  | ⟨.sub, [.register x, .register y]⟩ => some (sub x y)
  | ⟨.subn, [.register x, .register y]⟩ => some (subn x y)
  | ⟨.shr, [.register x, .spare y]⟩ => some (shr x y)
  | ⟨.shl, [.register x, .spare y]⟩ => some (shl x y)
  | ⟨.rnd, [.register x, .byte kk]⟩ => some (rnd x kk)
  | ⟨.drw, [.register x, .register y, .nibble n]⟩ => some (drw x y n)
  | ⟨.skp, [.register x]⟩ => some (skp x)
  | ⟨.sknp, [.register x]⟩ => some (sknp x)
  | ⟨.dw, [.word w]⟩ => some (unknown w)
  | _ => none

end Line

/-- The instruction that a text spells. -/
def Instruction.ofText? (s : String) : Option Instruction :=
  (Line.ofChars? s.toList).bind Line.instruction?

/-! ## Reading undoes writing -/

theorem Operand.registerOf?_digit (x : Register) :
    Operand.registerOf? (Hex.digit .upper x.val) = some x := by
  simp [Operand.registerOf?, Hex.digitValue?_digit x.isLt]

/-- An operand is recovered from its text, whatever follows that is no digit. -/
theorem Operand.read?_chars_append (o : Operand) {rest : List Char} (h : Hex.EndsBefore rest) :
    Operand.read? (o.chars ++ rest) = some (o, rest) := by
  cases o with
  | register x => simp [chars, read?, Hex.fixed_one, x.isLt, registerOf?_digit]
  | spare y => simp [chars, read?, Hex.fixed_one, y.isLt, registerOf?_digit]
  | nibble n =>
    have hv := Hex.value?_fixed (k := 1) (n := n.val) n.isLt
    simp [chars, read?, Hex.takeWhile_fixed_append _ _ h, Hex.dropWhile_fixed_append _ _ h,
      ofDollar?, hv]
  | byte kk =>
    have hv := Hex.value?_fixed (k := 2) (n := kk.toNat) kk.toNat_lt
    simp [chars, read?, Hex.takeWhile_fixed_append _ _ h, Hex.dropWhile_fixed_append _ _ h,
      ofDollar?, hv]
  | data a =>
    have hv := Hex.value?_fixed (k := 3) (n := a.val) a.isLt
    simp [chars, read?, Hex.takeWhile_fixed_append _ _ h, Hex.dropWhile_fixed_append _ _ h,
      ofDollar?, hv]
  | target a =>
    have hv := Hex.value?_fixed (k := 3) (n := a.val) a.isLt
    simp [chars, read?, Hex.takeWhile_fixed_append _ _ h, Hex.dropWhile_fixed_append _ _ h,
      ofZeroX?, hv]
  | word w =>
    have hv := Hex.value?_fixed (k := 4) (n := w.toNat) w.toNat_lt
    simp [chars, read?, Hex.takeWhile_fixed_append _ _ h, Hex.dropWhile_fixed_append _ _ h,
      ofZeroX?, hv]
  | _ => simp [chars, read?]

theorem Line.endsBefore_furtherChars (os : List Operand) :
    Hex.EndsBefore (Line.furtherChars os) := by
  intro c hc
  cases os with
  | nil => simp [furtherChars] at hc
  | cons o r =>
    cases o <;> simp [furtherChars, Operand.separator] at hc <;> subst hc <;> decide

theorem Line.length_le_furtherChars (os : List Operand) :
    os.length ≤ (Line.furtherChars os).length := by
  induction os with
  | nil => simp [furtherChars]
  | cons o r ih =>
    have hsep : 0 < o.separator.length := by cases o <;> simp [Operand.separator]
    simp only [furtherChars, List.length_append, List.length_cons]
    omega

theorem Line.further?_furtherChars (os : List Operand) {k : Nat} (h : os.length ≤ k) :
    Line.further? k (Line.furtherChars os) = some os := by
  induction os generalizing k with
  | nil => cases k <;> rfl
  | cons o r ih =>
    obtain ⟨k, rfl⟩ : ∃ j, k = j + 1 := ⟨k - 1, by simp at h; omega⟩
    have hr := ih (k := k) (by simpa using h)
    have hread := o.read?_chars_append (endsBefore_furtherChars r)
    cases o <;> simp [furtherChars, Operand.separator, further?, hread, hr]

theorem Line.operands?_operandChars (os : List Operand) :
    Line.operands? (Line.operandChars os) = some os := by
  cases os with
  | nil => rfl
  | cons o r =>
    simp [operandChars, operands?, o.read?_chars_append (endsBefore_furtherChars r),
      further?_furtherChars r (length_le_furtherChars r)]

theorem Mnemonic.ofChars?_chars (m : Mnemonic) : Mnemonic.ofChars? m.chars = some m := by
  cases m <;> rfl

theorem Mnemonic.blank_not_mem_chars (m : Mnemonic) : ∀ c ∈ m.chars, c ≠ ' ' := by
  cases m <;> simp [Mnemonic.chars]

/-- A line is recovered from its text. -/
theorem Line.ofChars?_chars (l : Line) : Line.ofChars? l.chars = some l := by
  obtain ⟨m, os⟩ := l
  have hm : ∀ c ∈ m.chars, decide (c ≠ ' ') = true := fun c hc =>
    decide_eq_true (m.blank_not_mem_chars c hc)
  have htake : (m.chars ++ operandChars os).takeWhile (· ≠ ' ') = m.chars := by
    rw [List.takeWhile_append_of_pos hm]
    cases os <;> simp [operandChars]
  have hdrop : (m.chars ++ operandChars os).dropWhile (· ≠ ' ') = operandChars os := by
    rw [List.dropWhile_append_of_pos hm]
    cases os <;> simp [operandChars]
  unfold ofChars?
  simp only [chars]
  rw [htake, hdrop, Mnemonic.ofChars?_chars, operands?_operandChars]
  rfl

theorem Instruction.instruction?_line (i : Instruction) : i.line.instruction? = some i := by
  cases i <;> rfl

/-- An instruction is recovered from its text. -/
theorem Instruction.ofText?_text (i : Instruction) : Instruction.ofText? i.text = some i := by
  simp [ofText?, text, Line.ofChars?_chars, instruction?_line]

end Chip8
