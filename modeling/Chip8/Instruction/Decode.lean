import Chip8.Instruction.Basic

/-!
# Decoding and encoding

`Instruction.decode` reads a word, `Instruction.encode` gives the word of an
instruction.  Decoding loses nothing: `encode_decode` says that every word is
the encoding of what it decodes to.
-/

namespace Chip8.Instruction

/-- Words of kind `0`: two instructions, and routines of another machine. -/
def decodeSystem (w : Word) : Instruction :=
  if (Word.address w).val = 0x0E0 then .cls
  else if (Word.address w).val = 0x0EE then .ret
  else .sys (Word.address w)

/-- Words of kind `8`: arithmetic on two registers, told apart by the last nibble. -/
def decodeArithmetic (w : Word) : Instruction :=
  match (Word.n w).val with
  | 0x0 => .ldReg (Word.x w) (Word.y w)
  | 0x1 => .or (Word.x w) (Word.y w)
  | 0x2 => .and (Word.x w) (Word.y w)
  | 0x3 => .xor (Word.x w) (Word.y w)
  | 0x4 => .addReg (Word.x w) (Word.y w)
  | 0x5 => .sub (Word.x w) (Word.y w)
  | 0x6 => .shr (Word.x w) (Word.y w)
  | 0x7 => .subn (Word.x w) (Word.y w)
  | 0xE => .shl (Word.x w) (Word.y w)
  | _ => .unknown w

/-- Words of kind `E`: the keypad, told apart by the low byte. -/
def decodeKeypad (w : Word) : Instruction :=
  match (Word.byte w).toNat with
  | 0x9E => .skp (Word.x w)
  | 0xA1 => .sknp (Word.x w)
  | _ => .unknown w

/-- Words of kind `F`: timers, the index register and memory, told apart by the low byte. -/
def decodeDevice (w : Word) : Instruction :=
  match (Word.byte w).toNat with
  | 0x07 => .ldFromDelay (Word.x w)
  | 0x0A => .ldKey (Word.x w)
  | 0x15 => .ldDelay (Word.x w)
  | 0x18 => .ldSound (Word.x w)
  | 0x1E => .addIndex (Word.x w)
  | 0x29 => .ldGlyph (Word.x w)
  | 0x33 => .ldDecimal (Word.x w)
  | 0x55 => .store (Word.x w)
  | 0x65 => .load (Word.x w)
  | _ => .unknown w

/-- The instruction that a word stands for. -/
def decode (w : Word) : Instruction :=
  match Word.kind w with
  | 0x0 => decodeSystem w
  | 0x1 => .jp (Word.address w)
  | 0x2 => .call (Word.address w)
  | 0x3 => .seByte (Word.x w) (Word.byte w)
  | 0x4 => .sneByte (Word.x w) (Word.byte w)
  | 0x5 => if (Word.n w).val = 0 then .seReg (Word.x w) (Word.y w) else .unknown w
  | 0x6 => .ldByte (Word.x w) (Word.byte w)
  | 0x7 => .addByte (Word.x w) (Word.byte w)
  | 0x8 => decodeArithmetic w
  | 0x9 => if (Word.n w).val = 0 then .sneReg (Word.x w) (Word.y w) else .unknown w
  | 0xA => .ldIndex (Word.address w)
  | 0xB => .jpV0 (Word.address w)
  | 0xC => .rnd (Word.x w) (Word.byte w)
  | 0xD => .drw (Word.x w) (Word.y w) (Word.n w)
  | 0xE => decodeKeypad w
  | _ => decodeDevice w

/-- The word that stands for an instruction. -/
def encode : Instruction → Word
  | cls => 0x00E0
  | ret => 0x00EE
  | sys a => Word.ofAddress 0x0 a
  | jp a => Word.ofAddress 0x1 a
  | call a => Word.ofAddress 0x2 a
  | seByte x kk => Word.ofByte 0x3 x kk
  | sneByte x kk => Word.ofByte 0x4 x kk
  | seReg x y => Word.ofFields 0x5 x y 0x0
  | ldByte x kk => Word.ofByte 0x6 x kk
  | addByte x kk => Word.ofByte 0x7 x kk
  | ldReg x y => Word.ofFields 0x8 x y 0x0
  | or x y => Word.ofFields 0x8 x y 0x1
  | and x y => Word.ofFields 0x8 x y 0x2
  | xor x y => Word.ofFields 0x8 x y 0x3
  | addReg x y => Word.ofFields 0x8 x y 0x4
  | sub x y => Word.ofFields 0x8 x y 0x5
  | shr x y => Word.ofFields 0x8 x y 0x6
  | subn x y => Word.ofFields 0x8 x y 0x7
  | shl x y => Word.ofFields 0x8 x y 0xE
  | sneReg x y => Word.ofFields 0x9 x y 0x0
  | ldIndex a => Word.ofAddress 0xA a
  | jpV0 a => Word.ofAddress 0xB a
  | rnd x kk => Word.ofByte 0xC x kk
  | drw x y n => Word.ofFields 0xD x y n.val
  | skp x => Word.ofByte 0xE x 0x9E
  | sknp x => Word.ofByte 0xE x 0xA1
  | ldFromDelay x => Word.ofByte 0xF x 0x07
  | ldKey x => Word.ofByte 0xF x 0x0A
  | ldDelay x => Word.ofByte 0xF x 0x15
  | ldSound x => Word.ofByte 0xF x 0x18
  | addIndex x => Word.ofByte 0xF x 0x1E
  | ldGlyph x => Word.ofByte 0xF x 0x29
  | ldDecimal x => Word.ofByte 0xF x 0x33
  | store x => Word.ofByte 0xF x 0x55
  | load x => Word.ofByte 0xF x 0x65
  | unknown w => w

/-! ## Decoding loses nothing -/

/-- A word is put together from its kind and its address. -/
theorem ofAddress_of_kind {w : Word} {k : Nat} (hk : Word.kind w = k) :
    Word.ofAddress k (Word.address w) = w := by
  rw [← hk]
  exact Word.ofAddress_fields w

/-- A word is put together from its kind, its register and its byte. -/
theorem ofByte_of_kind {w : Word} {k : Nat} {b : UInt8} (hk : Word.kind w = k)
    (hb : (Word.byte w).toNat = b.toNat) : Word.ofByte k (Word.x w) b = w := by
  rw [← hk, ← UInt8.toNat_inj.mp hb]
  exact Word.ofByte_fields w

/-- A word is put together from its kind and its three low nibbles. -/
theorem ofFields_of_kind {w : Word} {k m : Nat} (hk : Word.kind w = k)
    (hm : (Word.n w).val = m) : Word.ofFields k (Word.x w) (Word.y w) m = w := by
  rw [← hk, ← hm]
  exact Word.ofFields_fields w

theorem kind_lt (w : Word) : Word.kind w < 16 := by
  have h := w.toNat_lt
  simp only [Word.kind]
  omega

theorem encode_decodeSystem {w : Word} (hk : Word.kind w = 0) :
    encode (decodeSystem w) = w := by
  have hw : w.toNat / 4096 = 0 := hk
  unfold decodeSystem
  split
  · next h =>
    have h' : w.toNat % 4096 = 0x0E0 := h
    exact UInt16.toNat_inj.mp (show (0x00E0 : UInt16).toNat = w.toNat by
      have : (0x00E0 : UInt16).toNat = 0x0E0 := rfl
      omega)
  · split
    · next h =>
      have h' : w.toNat % 4096 = 0x0EE := h
      exact UInt16.toNat_inj.mp (show (0x00EE : UInt16).toNat = w.toNat by
        have : (0x00EE : UInt16).toNat = 0x0EE := rfl
        omega)
    · exact ofAddress_of_kind hk

theorem encode_decodeArithmetic {w : Word} (hk : Word.kind w = 8) :
    encode (decodeArithmetic w) = w := by
  unfold decodeArithmetic
  split
  case h_10 => rfl
  all_goals exact ofFields_of_kind hk (by assumption)

theorem encode_decodeKeypad {w : Word} (hk : Word.kind w = 14) :
    encode (decodeKeypad w) = w := by
  unfold decodeKeypad
  split
  case h_3 => rfl
  all_goals exact ofByte_of_kind hk (by assumption)

theorem encode_decodeDevice {w : Word} (hk : Word.kind w = 15) :
    encode (decodeDevice w) = w := by
  unfold decodeDevice
  split
  case h_10 => rfl
  all_goals exact ofByte_of_kind hk (by assumption)

/-- Every word is the encoding of the instruction that it decodes to. -/
theorem encode_decode (w : Word) : encode (decode w) = w := by
  have hlt := kind_lt w
  unfold decode
  split
  case h_1 hk => exact encode_decodeSystem hk
  case h_6 hk =>
    split
    · exact ofFields_of_kind hk (by assumption)
    · rfl
  case h_9 hk => exact encode_decodeArithmetic hk
  case h_10 hk =>
    split
    · exact ofFields_of_kind hk (by assumption)
    · rfl
  case h_14 hk => exact ofFields_of_kind hk rfl
  case h_15 hk => exact encode_decodeKeypad hk
  case h_16 =>
    refine encode_decodeDevice ?_
    simp only [imp_false] at *
    omega
  case h_2 hk => exact ofAddress_of_kind hk
  case h_3 hk => exact ofAddress_of_kind hk
  case h_11 hk => exact ofAddress_of_kind hk
  case h_12 hk => exact ofAddress_of_kind hk
  case h_4 hk => exact ofByte_of_kind hk rfl
  case h_5 hk => exact ofByte_of_kind hk rfl
  case h_7 hk => exact ofByte_of_kind hk rfl
  case h_8 hk => exact ofByte_of_kind hk rfl
  case h_13 hk => exact ofByte_of_kind hk rfl

end Chip8.Instruction
