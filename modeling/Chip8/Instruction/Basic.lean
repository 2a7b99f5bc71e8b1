import Chip8.Instruction.Word

/-!
# The instruction set

Thirty-five instructions, and `unknown` for the words that stand for none.
Operands are registers, a byte, a nibble or a twelve-bit address; an unknown
word keeps all its bits, so no word is lost by decoding.
-/

namespace Chip8

/-- An instruction with its operands. -/
inductive Instruction
  /-- `00E0`: turn all pixels off. -/
  | cls
  /-- `00EE`: return from a subroutine. -/
  | ret
  /-- `0nnn`: call a machine code routine; there is none, so nothing happens. -/
  | sys (target : Address)
  /-- `1nnn`: jump. -/
  | jp (target : Address)
  /-- `2nnn`: call a subroutine. -/
  | call (target : Address)
  /-- `3xkk`: skip if the register equals the byte. -/
  | seByte (x : Register) (kk : UInt8)
  /-- `4xkk`: skip if the register differs from the byte. -/
  | sneByte (x : Register) (kk : UInt8)
  /-- `5xy0`: skip if the registers are equal. -/
  | seReg (x y : Register)
  /-- `6xkk`: load a byte. -/
  | ldByte (x : Register) (kk : UInt8)
  /-- `7xkk`: add a byte; no carry is kept. -/
  | addByte (x : Register) (kk : UInt8)
  /-- `8xy0`: copy a register. -/
  | ldReg (x y : Register)
  /-- `8xy1`: bitwise or. -/
  | or (x y : Register)
  /-- `8xy2`: bitwise and. -/
  | and (x y : Register)
  /-- `8xy3`: bitwise exclusive or. -/
  | xor (x y : Register)
  /-- `8xy4`: add; VF is the carry. -/
  | addReg (x y : Register)
  /-- `8xy5`: subtract; VF tells that the left operand was greater. -/
  | sub (x y : Register)
  /-- `8xy6`: shift right; VF is the bit shifted out, `y` is not looked at. -/
  | shr (x y : Register)
  /-- `8xy7`: subtract the other way round; VF as for `sub`. -/
  | subn (x y : Register)
  /-- `8xyE`: shift left; VF is the bit shifted out, `y` is not looked at. -/
  | shl (x y : Register)
  /-- `9xy0`: skip if the registers differ. -/
  | sneReg (x y : Register)
  /-- `Annn`: load the index register. -/
  | ldIndex (a : Address)
  /-- `Bnnn`: jump to an address plus V0. -/
  | jpV0 (a : Address)
  /-- `Cxkk`: a random byte, masked. -/
  | rnd (x : Register) (kk : UInt8)
  /-- `Dxyn`: draw a sprite of `n` rows at the position two registers hold. -/
  | drw (x y : Register) (n : Nibble)
  /-- `Ex9E`: skip if the key is down. -/
  | skp (x : Register)
  /-- `ExA1`: skip if the key is not down. -/
  | sknp (x : Register)
  /-- `Fx07`: read the delay timer. -/
  | ldFromDelay (x : Register)
  /-- `Fx0A`: wait for a key. -/
  | ldKey (x : Register)
  /-- `Fx15`: set the delay timer. -/
  | ldDelay (x : Register)
  /-- `Fx18`: set the sound timer. -/
  | ldSound (x : Register)
  /-- `Fx1E`: add to the index register. -/
  | addIndex (x : Register)
  /-- `Fx29`: point the index register at a glyph of the font. -/
  | ldGlyph (x : Register)
  /-- `Fx33`: store the three decimal digits of a register. -/
  | ldDecimal (x : Register)
  /-- `Fx55`: store V0 up to a register. -/
  | store (x : Register)
  /-- `Fx65`: load V0 up to a register. -/
  | load (x : Register)
  /-- Any other word. -/
  | unknown (w : Word)
  deriving DecidableEq, Repr

end Chip8
