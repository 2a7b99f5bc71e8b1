import Chip8.Text.Hex
import Chip8.Text.Printable

/-!
# Quoted characters

A character in single quotes, written so that every character can be told
from every other: the quote and the backslash are escaped by a backslash, four
control characters have short names, and whatever is not printable is given by
its code point in hexadecimal.
-/

namespace Chip8.Quoted

/-- The escape for a code point. -/
def codePoint (c : Char) : List Char :=
  ['\\', 'u', '\x7b'] ++ Hex.padded .lower 1 c.toNat ++ ['\x7d']

/-- A character between quotes. -/
def inner (c : Char) : List Char :=
  if c = '\x00' then ['\\', '0']
  else if c = '\t' then ['\\', 't']
  else if c = '\r' then ['\\', 'r']
  else if c = '\n' then ['\\', 'n']
  else if c = '\\' ∨ c = '\x27' then ['\\', c]
  else if Printable.isPrintable c then [c]
  else codePoint c

/-- A character in single quotes. -/
def char (c : Char) : String :=
  String.ofList (['\x27'] ++ inner c ++ ['\x27'])

end Chip8.Quoted
