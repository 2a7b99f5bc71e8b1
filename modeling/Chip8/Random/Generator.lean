import Chip8.Random.Keystream

/-!
# The random number generator

The generator hands out the words of a keystream in order.  It keeps the
current block and how many of its words have been used, and computes the next
block only when a word of it is wanted.

## Main results

* `Generator.next_of_stands`: after `n` words the next one is word `n` of the
  stream
-/

namespace Chip8

/-- A generator of random numbers. -/
structure Generator where
  /-- The key of the stream. -/
  key : Keystream.SeedKey
  /-- The number of the block after the current one. -/
  nextBlock : UInt64
  /-- The current block. -/
  buffer : Keystream.Block
  /-- How many words of the current block have been used. -/
  used : Nat
  deriving DecidableEq

namespace Generator

/-- The generator of a seed; it has no block yet. -/
def ofSeed (seed : UInt64) : Generator :=
  ⟨Keystream.keyOfSeed seed, 0, Bank.replicate 0, 16⟩

/-- The next word, and the generator after it. -/
def next (g : Generator) : UInt32 × Generator :=
  if h : g.used < 16 then (g.buffer.get ⟨g.used, h⟩, { g with used := g.used + 1 })
  else
    let block := Keystream.block g.key g.nextBlock
    (block.get 0, { g with nextBlock := g.nextBlock + 1, buffer := block, used := 1 })

/-- The low byte of the next word, and the generator after it. -/
def nextByte (g : Generator) : UInt8 × Generator :=
  let (w, g) := g.next
  (w.toUInt8, g)

/-! ## The words are those of the stream -/

/-- The generator has handed out the first `n` words of the stream of a key. -/
structure Stands (g : Generator) (key : Keystream.SeedKey) (n : Nat) : Prop where
  key_eq : g.key = key
  used_le : g.used ≤ 16
  /-- The current block is the one before `nextBlock`, unless there is none yet. -/
  position : ∃ b, g.nextBlock = UInt64.ofNat b ∧ n + 16 = 16 * b + g.used
  buffer_eq : g.used < 16 → g.buffer = Keystream.block key (UInt64.ofNat (n / 16))

theorem ofSeed_stands (seed : UInt64) : (ofSeed seed).Stands (Keystream.keyOfSeed seed) 0 where
  key_eq := rfl
  used_le := Nat.le_refl 16
  position := ⟨0, rfl, rfl⟩
  buffer_eq h := absurd h (by simp [ofSeed])

/-- After `n` words the next one is word `n` of the stream. -/
theorem next_of_stands {g : Generator} {key : Keystream.SeedKey} {n : Nat}
    (h : g.Stands key n) :
    g.next.1 = Keystream.word key n ∧ g.next.2.Stands key (n + 1) := by
  obtain ⟨b, hb, hn⟩ := h.position
  have hle := h.used_le
  unfold next
  by_cases hu : g.used < 16
  · have hpos : Nibble.low n = ⟨g.used, hu⟩ := Fin.ext (show n % 16 = g.used by omega)
    simp only [hu, dite_true]
    refine ⟨?_, h.key_eq, hu, ⟨b, hb, ?_⟩, fun hlt => ?_⟩
    · simp [Keystream.word, h.buffer_eq hu, hpos]
    · show n + 1 + 16 = 16 * b + (g.used + 1)
      omega
    · have hdiv : (n + 1) / 16 = n / 16 := by
        have hlt' : g.used + 1 < 16 := hlt
        omega
      rw [hdiv]
      exact h.buffer_eq hu
  · have hused : g.used = 16 := by omega
    have hpos : Nibble.low n = 0 := Fin.ext (show n % 16 = 0 by omega)
    have hdiv : n / 16 = b := by omega
    simp only [hu, dite_false]
    refine ⟨?_, h.key_eq, ?_, ⟨b + 1, ?_, ?_⟩, fun _ => ?_⟩
    · simp [Keystream.word, hpos, hdiv, h.key_eq, hb]
    · show 1 ≤ 16
      omega
    · show g.nextBlock + 1 = UInt64.ofNat (b + 1)
      rw [hb]
      simp
    · show n + 1 + 16 = 16 * (b + 1) + 1
      omega
    · have hdiv' : (n + 1) / 16 = b := by omega
      show Keystream.block g.key g.nextBlock = _
      rw [h.key_eq, hb, hdiv']

end Generator

end Chip8
