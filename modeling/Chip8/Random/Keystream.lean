import Chip8.Bank

/-!
# The keystream

Random numbers are the words of a ChaCha keystream with twelve rounds.  The
state is four constants, eight words of key, a 64-bit block counter and two
zeros; a block is that state after twelve rounds, added to the state itself.
Word `n` of the stream is word `n % 16` of block `n / 16`.

The key comes from a 64-bit seed by a linear congruential sequence whose terms
are mixed down to 32 bits.
-/

namespace Chip8.Keystream

/-- A word rotated to the left. -/
def rotateLeft (x : UInt32) (k : UInt32) : UInt32 :=
  (x <<< k) ||| (x >>> (32 - k))

/-- A word rotated to the right by an amount below 32. -/
def rotateRight (x : UInt32) (k : UInt32) : UInt32 :=
  if k = 0 then x else (x >>> k) ||| (x <<< (32 - k))

/-! ## Keys from seeds -/

/-- The next term of the sequence that keys are made from. -/
def advance (s : UInt64) : UInt64 :=
  s * 6364136223846793005 + 11634580027462260723

/-- The term number `k` after a seed. -/
def term (seed : UInt64) : Nat → UInt64
  | 0 => seed
  | k + 1 => advance (term seed k)

/-- A term mixed down to 32 bits; its five highest bits say how far to rotate. -/
def mix (s : UInt64) : UInt32 :=
  rotateRight (((s >>> 18) ^^^ s) >>> 27).toUInt32 (s >>> 59).toUInt32

/-- A key of eight words. -/
abbrev SeedKey := Vector UInt32 8

/-- The key of a seed. -/
def keyOfSeed (seed : UInt64) : SeedKey :=
  Vector.ofFn fun i => mix (term seed (i.val + 1))

/-! ## Blocks -/

/-- Sixteen words, in four rows of four. -/
abbrev Block := Bank UInt32

/-- The state that a block is computed from. -/
def initial (key : SeedKey) (counter : UInt64) : Block :=
  ⟨#v[0x61707865, 0x3320646e, 0x79622d32, 0x6b206574,
    key[0], key[1], key[2], key[3], key[4], key[5], key[6], key[7],
    counter.toUInt32, (counter >>> 32).toUInt32, 0, 0]⟩

/-- One quarter round on four words of a block. -/
def quarterRound (s : Block) (i j k l : Nibble) : Block :=
  let a := s.get i + s.get j
  let d := rotateLeft (s.get l ^^^ a) 16
  let c := s.get k + d
  let b := rotateLeft (s.get j ^^^ c) 12
  let a := a + b
  let d := rotateLeft (d ^^^ a) 8
  let c := c + d
  let b := rotateLeft (b ^^^ c) 7
  (((s.set i a).set j b).set k c).set l d

/-- A round on the columns and a round on the diagonals. -/
def doubleRound (s : Block) : Block :=
  let s := quarterRound s 0 4 8 12
  let s := quarterRound s 1 5 9 13
  let s := quarterRound s 2 6 10 14
  let s := quarterRound s 3 7 11 15
  let s := quarterRound s 0 5 10 15
  let s := quarterRound s 1 6 11 12
  let s := quarterRound s 2 7 8 13
  quarterRound s 3 4 9 14

/-- So many double rounds. -/
def doubleRounds : Nat → Block → Block
  | 0, s => s
  | k + 1, s => doubleRounds k (doubleRound s)

/-- The block of a key with the given counter. -/
def block (key : SeedKey) (counter : UInt64) : Block :=
  let s := initial key counter
  let mixed := doubleRounds 6 s
  Bank.ofFn fun k => mixed.get k + s.get k

/-- Word `n` of the stream of a key. -/
def word (key : SeedKey) (n : Nat) : UInt32 :=
  (block key (UInt64.ofNat (n / 16))).get (Nibble.low n)

end Chip8.Keystream
