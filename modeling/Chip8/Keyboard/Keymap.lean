import Chip8.Keypad.Basic

/-!
# Keymaps

Which characters of the keyboard stand for which keys.  A keymap is a list of
pairs in which a later entry for a character replaces an earlier one.  There
are two layouts:

    keypad         conventional     literal
    1 2 3 C        1 2 3 4          1 2 3 c
    4 5 6 D        q w e r          4 5 6 d
    7 8 9 E        a s d f          7 8 9 e
    A 0 B F        z x c v          a 0 b f
-/

namespace Chip8

/-- Characters and the keys that they stand for. -/
abbrev Keymap := List (Char × Key)

/-- The key that a character stands for. -/
def Keymap.key? (m : Keymap) (c : Char) : Option Key :=
  (m.reverse.find? fun e => e.1 == c).map Prod.snd

/-- The layouts that come with the program. -/
inductive Layout
  /-- The left-hand side of the keyboard, arranged like the keypad. -/
  | conventional
  /-- Every key under the digit or letter that it bears. -/
  | literal
  deriving DecidableEq, Repr

/-- The keymap of a layout. -/
def Layout.keymap : Layout → Keymap
  | conventional =>
    [('x', 0x0), ('1', 0x1), ('2', 0x2), ('3', 0x3), ('q', 0x4), ('w', 0x5), ('e', 0x6),
      ('a', 0x7), ('s', 0x8), ('d', 0x9), ('z', 0xA), ('c', 0xB), ('4', 0xC), ('r', 0xD),
      ('f', 0xE), ('v', 0xF)]
  | literal =>
    [('0', 0x0), ('1', 0x1), ('2', 0x2), ('3', 0x3), ('4', 0x4), ('5', 0x5), ('6', 0x6),
      ('7', 0x7), ('8', 0x8), ('9', 0x9), ('a', 0xA), ('b', 0xB), ('c', 0xC), ('d', 0xD),
      ('e', 0xE), ('f', 0xF)]

end Chip8
