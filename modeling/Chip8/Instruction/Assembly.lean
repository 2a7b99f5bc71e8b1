import Chip8.Instruction.Basic
import Chip8.Text.Hex

/-!
# Assembly text

An instruction is written as a line: a mnemonic, and operands separated by
commas.  The kinds of operands differ in how they are written:

    V3        a register
    $A        a nibble, in one digit
    $0A       a byte, in two
    $20A      an address that is loaded, in three
    0x20A     an address that is jumped to
    0xFFFF    a word that stands for no instruction
    [I]       the memory at the index register

The shifts name a second register without looking at it; it is set apart in
braces.  `Instruction.line` says which line an instruction is, and `Line.chars`
how a line is written, so that reading can undo the two steps one by one.
-/

namespace Chip8

/-- The name that starts a line. -/
inductive Mnemonic
  | cls | ret | sys | jp | call | se | sne | ld | add | or | and | xor
  | sub | shr | subn | shl | rnd | drw | skp | sknp | dw
  deriving DecidableEq, Repr

/-- The letters of a mnemonic. -/
def Mnemonic.chars : Mnemonic → List Char
  | cls => ['C', 'L', 'S']
  | ret => ['R', 'E', 'T']
  | sys => ['S', 'Y', 'S']
  | jp => ['J', 'P']
  | call => ['C', 'A', 'L', 'L']
  | se => ['S', 'E']
  | sne => ['S', 'N', 'E']
  | ld => ['L', 'D']
  | add => ['A', 'D', 'D']
  | or => ['O', 'R']
  | and => ['A', 'N', 'D']
  | xor => ['X', 'O', 'R']
  | sub => ['S', 'U', 'B']
  | shr => ['S', 'H', 'R']
  | subn => ['S', 'U', 'B', 'N']
  | shl => ['S', 'H', 'L']
  | rnd => ['R', 'N', 'D']
  | drw => ['D', 'R', 'W']
  | skp => ['S', 'K', 'P']
  | sknp => ['S', 'K', 'N', 'P']
  | dw => ['D', 'W']

/-- What an instruction works on. -/
inductive Operand
  /-- A register. -/
  | register (x : Register)
  /-- A register that is named but not looked at. -/
  | spare (y : Register)
  /-- A number below sixteen. -/
  | nibble (n : Nibble)
  /-- A byte. -/
  | byte (kk : UInt8)
  /-- An address that is loaded or added to. -/
  | data (a : Address)
  /-- An address that is jumped to. -/
  | target (a : Address)
  /-- A whole word. -/
  | word (w : Word)
  /-- The index register. -/
  | index
  /-- The memory that the index register points at. -/
  | memory
  /-- The delay timer. -/
  | delay
  /-- The sound timer. -/
  | sound
  /-- The next key. -/
  | key
  /-- A glyph of the font. -/
  | glyph
  /-- The decimal digits. -/
  | decimal
  deriving DecidableEq, Repr

namespace Operand

/-- How an operand is written. -/
def chars : Operand → List Char
  | register x => 'V' :: Hex.fixed .upper 1 x.val
  | spare y => '\x7b' :: ',' :: ' ' :: 'V' :: (Hex.fixed .upper 1 y.val ++ ['\x7d'])
  | nibble n => '$' :: Hex.fixed .upper 1 n.val
  | byte kk => '$' :: Hex.fixed .upper 2 kk.toNat
  | data a => '$' :: Hex.fixed .upper 3 a.val
  | target a => '0' :: 'x' :: Hex.fixed .upper 3 a.val
  | word w => '0' :: 'x' :: Hex.fixed .upper 4 w.toNat
  | index => ['I']
  | memory => ['[', 'I', ']']
  | delay => ['D', 'T']
  | sound => ['S', 'T']
  | key => ['K']
  | glyph => ['F']
  | decimal => ['B']

/-- What stands between an operand and the one before it. -/
def separator : Operand → List Char
  | spare _ => [' ']
  | _ => [',', ' ']

end Operand

/-- A line of assembly text. -/
structure Line where
  /-- The name that starts the line. -/
  mnemonic : Mnemonic
  /-- The operands in order. -/
  operands : List Operand
  deriving DecidableEq, Repr

namespace Line

/-- The operands after the first, each with what separates it from the one before. -/
def furtherChars : List Operand → List Char
  | [] => []
  | o :: r => o.separator ++ (o.chars ++ furtherChars r)

/-- All operands, the first separated from the mnemonic by a blank. -/
def operandChars : List Operand → List Char
  | [] => []
  | o :: r => ' ' :: (o.chars ++ furtherChars r)

/-- How a line is written. -/
def chars (l : Line) : List Char :=
  l.mnemonic.chars ++ operandChars l.operands

end Line

namespace Instruction

open Operand

/-- The line of an instruction. -/
def line : Instruction → Line
  | cls => ⟨.cls, []⟩
  | ret => ⟨.ret, []⟩
  | sys a => ⟨.sys, [target a]⟩
  | jp a => ⟨.jp, [target a]⟩
  | call a => ⟨.call, [target a]⟩
  | seByte x kk => ⟨.se, [register x, byte kk]⟩
  | sneByte x kk => ⟨.sne, [register x, byte kk]⟩
  | seReg x y => ⟨.se, [register x, register y]⟩
  | ldByte x kk => ⟨.ld, [register x, byte kk]⟩
  | addByte x kk => ⟨.add, [register x, byte kk]⟩
  | ldReg x y => ⟨.ld, [register x, register y]⟩
  | or x y => ⟨.or, [register x, register y]⟩
  | and x y => ⟨.and, [register x, register y]⟩
  | xor x y => ⟨.xor, [register x, register y]⟩
  | addReg x y => ⟨.add, [register x, register y]⟩
  | sub x y => ⟨.sub, [register x, register y]⟩
  | shr x y => ⟨.shr, [register x, spare y]⟩
  | subn x y => ⟨.subn, [register x, register y]⟩
  | shl x y => ⟨.shl, [register x, spare y]⟩
  | sneReg x y => ⟨.sne, [register x, register y]⟩
  | ldIndex a => ⟨.ld, [index, data a]⟩
  | jpV0 a => ⟨.jp, [register 0, data a]⟩
  | rnd x kk => ⟨.rnd, [register x, byte kk]⟩
  | drw x y n => ⟨.drw, [register x, register y, nibble n]⟩
  | skp x => ⟨.skp, [register x]⟩
  | sknp x => ⟨.sknp, [register x]⟩
  | ldFromDelay x => ⟨.ld, [register x, delay]⟩
  | ldKey x => ⟨.ld, [register x, key]⟩
  | ldDelay x => ⟨.ld, [delay, register x]⟩
  | ldSound x => ⟨.ld, [sound, register x]⟩
  | addIndex x => ⟨.add, [index, register x]⟩
  | ldGlyph x => ⟨.ld, [glyph, register x]⟩
  | ldDecimal x => ⟨.ld, [decimal, register x]⟩
  | store x => ⟨.ld, [memory, register x]⟩
  | load x => ⟨.ld, [register x, memory]⟩
  | unknown w => ⟨.dw, [word w]⟩

/-- The assembly text of an instruction. -/
def text (i : Instruction) : String :=
  String.ofList i.line.chars

end Instruction

end Chip8
