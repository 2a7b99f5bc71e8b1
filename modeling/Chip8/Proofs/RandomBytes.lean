import Chip8.Proofs.FaultRules
import Chip8.Proofs.Forms
import Chip8.Proofs.Parts

/-!
# Random bytes

Only `Cxkk` asks the generator for a byte, and it asks for one whatever its mask
is.  Nothing else that is done with a machine touches the generator: a step that
faults or waits leaves no trace, a program that is loaded goes to memory, and
timers and keys have nothing to do with it.

So how far the generator has got is told by counting the bytes that a run drew.
The byte number `n` of every run with a seed is the low byte of word `n` of the
keystream of that seed, and what else happens in the run has no say in it.

## Main definitions

* `Roll`, `Machine.rolls`: the random bytes that a run draws
* `Generator.skip`: the generator some words later
* `Machine.Seeded`: what the bytes of a run have to do with its seed

## Main results

* `Generator.nextByte_skip_ofSeed`: the bytes of a generator
* `Machine.random_perform`, `Machine.random_performAll`: how far the generator
  gets under an operation, and in a run
* `Machine.rolls_of_seed`: the seed and the count decide
-/

namespace Chip8

/-! ## The generator some words later -/

namespace Generator

/-- The generator after so many words more. -/
def skip (g : Generator) : Nat → Generator
  | 0 => g
  | n + 1 => g.next.2.skip n

theorem Stands.skip {g : Generator} {key : Keystream.SeedKey} {n : Nat} (h : g.Stands key n)
    (k : Nat) : (g.skip k).Stands key (n + k) := by
  induction k generalizing g n with
  | zero => exact h
  | succ k ih =>
    have hnext := ih (next_of_stands h).2
    rw [Nat.add_assoc, Nat.add_comm 1 k] at hnext
    exact hnext

theorem skip_add (g : Generator) (m n : Nat) : g.skip (m + n) = (g.skip m).skip n := by
  induction m generalizing g with
  | zero => rw [Nat.zero_add, skip]
  | succ m ih =>
    rw [Nat.succ_add]
    exact ih g.next.2

/-- Byte `n` of a generator is the low byte of word `n` of the keystream. -/
theorem nextByte_skip_ofSeed (seed : UInt64) (n : Nat) :
    ((ofSeed seed).skip n).nextByte.1 =
      (Keystream.word (Keystream.keyOfSeed seed) n).toUInt8 := by
  have hstands := (ofSeed_stands seed).skip n
  rw [Nat.zero_add] at hstands
  exact congrArg UInt32.toUInt8 (next_of_stands hstands).1

end Generator

/-! ## What an operation draws -/

/-- A random byte that was drawn. -/
structure Roll where
  /-- The register that it was drawn for. -/
  register : Register
  /-- The mask that was put on it. -/
  mask : UInt8
  /-- The byte without the mask. -/
  drawn : UInt8
  /-- What the register holds afterwards. -/
  stored : UInt8
  deriving DecidableEq, Repr

theorem Word.decode_eq_rnd_iff {w : Word} {x : Register} {kk : UInt8} :
    Instruction.decode w = .rnd x kk ↔ w.Fits "Cxkk" ∧ x = w.x ∧ kk = w.byte := by
  rw [decode_eq_iff]
  constructor
  · rintro (h | ⟨h, -⟩)
    · cases h with
      | rnd form => exact ⟨form, rfl, rfl⟩
    · cases h
  · rintro ⟨form, rfl, rfl⟩
    exact .inl (.rnd form)

theorem Instruction.random_not_mem_parts {i : Instruction} (h : ∀ x kk, i ≠ .rnd x kk) :
    Part.random ∉ i.parts := by
  cases i with
  | rnd x kk => exact absurd rfl (h x kk)
  | _ => nofun

namespace Machine

/-- The random byte that an operation draws, if it does. -/
def roll? (m : Machine) : Operation → Option Roll
  | .step =>
    match m.fetch.map Instruction.decode with
    | .ok (.rnd x kk) => some ⟨x, kk, m.random.nextByte.1, m.step.machine.reg x⟩
    | _ => none
  | _ => none

/-- The random bytes that a run draws, in their order. -/
def rolls (m : Machine) : List Operation → List Roll
  | [] => []
  | op :: rest => (m.roll? op).toList ++ (m.perform op).1.rolls rest

theorem rolls_cons (m : Machine) (op : Operation) (rest : List Operation) :
    m.rolls (op :: rest) = (m.roll? op).toList ++ (m.perform op).1.rolls rest := rfl

variable {m : Machine}

theorem roll?_step_of_rnd {w : Word} {x : Register} {kk : UInt8} (hw : m.fetch = .ok w)
    (hi : Instruction.decode w = .rnd x kk) :
    m.roll? .step = some ⟨x, kk, m.random.nextByte.1, m.step.machine.reg x⟩ := by
  simp only [roll?, hw, Except.map, hi]

theorem roll?_step_of_ne {w : Word} (hw : m.fetch = .ok w)
    (hi : ∀ x kk, Instruction.decode w ≠ .rnd x kk) : m.roll? .step = none := by
  simp only [roll?, hw, Except.map]
  cases hdecode : Instruction.decode w with
  | rnd x kk => exact absurd hdecode (hi x kk)
  | _ => rfl

theorem roll?_step_of_error {f : Fault} (hw : m.fetch = .error f) : m.roll? .step = none := by
  simp only [roll?, hw, Except.map]

/-- **A byte is drawn by a step whose word is `Cxkk`**, and by nothing else. -/
theorem roll?_eq_some_iff (m : Machine) (op : Operation) (roll : Roll) :
    m.roll? op = some roll ↔
      op = .step ∧ ∃ w, m.Reads w ∧ w.Fits "Cxkk" ∧
        roll = ⟨w.x, w.byte, m.random.nextByte.1, m.step.machine.reg w.x⟩ := by
  constructor
  · intro h
    cases op with
    | step =>
      refine ⟨rfl, ?_⟩
      cases hw : m.fetch with
      | error f =>
        rw [roll?_step_of_error hw] at h
        cases h
      | ok w =>
        by_cases hi : ∃ x kk, Instruction.decode w = .rnd x kk
        · obtain ⟨x, kk, hi⟩ := hi
          rw [roll?_step_of_rnd hw hi] at h
          obtain ⟨form, rfl, rfl⟩ := Word.decode_eq_rnd_iff.mp hi
          exact ⟨w, (fetch_eq_ok_iff m w).mp hw, form, (Option.some.inj h).symm⟩
        · rw [roll?_step_of_ne hw fun x kk hr => hi ⟨x, kk, hr⟩] at h
          cases h
    | _ => cases h
  · rintro ⟨rfl, w, hreads, form, rfl⟩
    exact roll?_step_of_rnd ((fetch_eq_ok_iff m w).mpr hreads)
      (Word.decode_eq_rnd_iff.mpr ⟨form, rfl, rfl⟩)

theorem step_of_rnd {w : Word} {x : Register} {kk : UInt8} (hw : m.fetch = .ok w)
    (hi : Instruction.decode w = .rnd x kk) : m.step = (m.advance.drawRandom x kk).done := by
  rw [step_of_word hw, hi]
  rfl

theorem reg_drawRandom (m : Machine) (x : Register) (kk : UInt8) :
    (m.drawRandom x kk).reg x = m.random.nextByte.1 &&& kk :=
  (reg_setReg _ x x _).trans (if_pos rfl)

/-- What is stored is the byte under its mask, and the generator has moved on by one word. -/
theorem roll_of_step {roll : Roll} (h : m.roll? .step = some roll) :
    roll.drawn = m.random.nextByte.1 ∧ roll.stored = roll.drawn &&& roll.mask ∧
      m.step.machine.reg roll.register = roll.stored ∧
      m.step.machine.random = m.random.next.2 := by
  obtain ⟨-, w, hreads, form, rfl⟩ := (roll?_eq_some_iff m .step roll).mp h
  have hstep := step_of_rnd ((fetch_eq_ok_iff m w).mpr hreads)
    (Word.decode_eq_rnd_iff.mpr ⟨form, rfl, rfl⟩)
  refine ⟨rfl, ?_, rfl, ?_⟩
  · show m.step.machine.reg w.x = _
    rw [hstep]
    exact reg_drawRandom m.advance w.x w.byte
  · rw [hstep]
    rfl

theorem random_step_of_none (h : m.roll? .step = none) : m.step.machine.random = m.random := by
  refine step_same m (p := .random) nofun fun w hw => ?_
  refine Instruction.random_not_mem_parts fun x kk hi => ?_
  rw [roll?_step_of_rnd hw hi] at h
  cases h

/-- An operation that draws no byte leaves the generator alone. -/
theorem random_perform_of_none {op : Operation} (h : m.roll? op = none) :
    (m.perform op).1.random = m.random := by
  cases op with
  | load image =>
    obtain ⟨memory, hload⟩ := m.exists_performLoad_eq image
    show (m.performLoad image).1.random = m.random
    rw [hload]
  | step => exact random_step_of_none h
  | tick => rfl
  | keyDown code generation => rfl
  | keyUp code generation => rfl

/-- **One operation**: the generator moves on by as many words as bytes are drawn. -/
theorem random_perform (m : Machine) (op : Operation) :
    (m.perform op).1.random = m.random.skip (m.roll? op).toList.length := by
  cases hroll : m.roll? op with
  | none => exact random_perform_of_none hroll
  | some roll =>
    obtain ⟨rfl, -⟩ := (roll?_eq_some_iff m op roll).mp hroll
    obtain ⟨-, -, -, hrandom⟩ := roll_of_step hroll
    exact hrandom

/-! ## What a run draws -/

/-- **A run**: the generator moves on by as many words as bytes are drawn. -/
theorem random_performAll (m : Machine) (run : List Operation) :
    (m.performAll run).random = m.random.skip (m.rolls run).length := by
  induction run generalizing m with
  | nil => rfl
  | cons op rest ih =>
    rw [performAll_cons, rolls_cons, List.length_append, Generator.skip_add, ← random_perform, ih]

/-- The bytes of a run are those of the generator, one after the other. -/
theorem drawn_of_rolls {run : List Operation} {n : Nat} {roll : Roll}
    (h : (m.rolls run)[n]? = some roll) : roll.drawn = (m.random.skip n).nextByte.1 := by
  -- What the first operation draws is the first byte; all others come from the generator after it.
  induction run generalizing m n with
  | nil => cases h
  | cons op rest ih =>
    rw [rolls_cons] at h
    cases hroll : m.roll? op with
    | none =>
      rw [hroll] at h
      have hlater := ih h
      rwa [random_perform_of_none hroll] at hlater
    | some first =>
      rw [hroll] at h
      obtain ⟨rfl, -⟩ := (roll?_eq_some_iff m op first).mp hroll
      obtain ⟨hdrawn, -, -, hrandom⟩ := roll_of_step hroll
      cases n with
      | zero =>
        obtain rfl : first = roll := Option.some.inj h
        exact hdrawn
      | succ n =>
        have hlater : roll.drawn = (m.step.machine.random.skip n).nextByte.1 := ih h
        rwa [hrandom] at hlater

/-- Every byte of a run is stored under its mask. -/
theorem stored_of_mem_rolls {run : List Operation} {roll : Roll} (h : roll ∈ m.rolls run) :
    roll.stored = roll.drawn &&& roll.mask := by
  induction run generalizing m with
  | nil => cases h
  | cons op rest ih =>
    rw [rolls_cons] at h
    rcases List.mem_append.mp h with hnow | hlater
    · have hroll : m.roll? op = some roll := Option.mem_toList.mp hnow
      obtain ⟨rfl, -⟩ := (roll?_eq_some_iff m op roll).mp hroll
      exact (roll_of_step hroll).2.1
    · exact ih hlater

/-! ## Seeds -/

/-- What the random bytes of a run have to do with the seed of its machine. -/
structure Seeded (seed : UInt64) (run : List Operation) : Prop where
  /-- Byte `n` is the low byte of word `n % 16` of block `n / 16` of the keystream. -/
  drawn_eq : ∀ n roll, ((fresh seed).rolls run)[n]? = some roll →
    roll.drawn = ((Keystream.block (Keystream.keyOfSeed seed)
      (UInt64.ofNat (n / 16))).get (Nibble.low n)).toUInt8
  stored_eq : ∀ roll ∈ (fresh seed).rolls run, roll.stored = roll.drawn &&& roll.mask
  /-- A byte is drawn exactly if the next operation is a step and the word is `Cxkk`. -/
  next_iff : ∀ op roll, ((fresh seed).performAll run).roll? op = some roll ↔
    op = .step ∧ ∃ w, ((fresh seed).performAll run).Reads w ∧ w.Fits "Cxkk" ∧
      roll = ⟨w.x, w.byte, ((fresh seed).performAll run).random.nextByte.1,
        ((fresh seed).performAll run).step.machine.reg w.x⟩
  /-- Any other operation leaves the generator alone. -/
  random_eq_of_none : ∀ op, ((fresh seed).performAll run).roll? op = none →
    (((fresh seed).performAll run).perform op).1.random = ((fresh seed).performAll run).random
  /-- How far the generator has got is the number of bytes drawn. -/
  random_eq : ((fresh seed).performAll run).random =
    (Generator.ofSeed seed).skip ((fresh seed).rolls run).length

theorem seeded (seed : UInt64) (run : List Operation) : Seeded seed run where
  drawn_eq n _ h := (drawn_of_rolls h).trans (Generator.nextByte_skip_ofSeed seed n)
  stored_eq _ h := stored_of_mem_rolls h
  next_iff := roll?_eq_some_iff _
  random_eq_of_none _ h := random_perform_of_none h
  random_eq := random_performAll (fresh seed) run

/-- **Random bytes depend on the seed and their number only.**  The bytes of any run with a seed are
those of its keystream, in their order, and no other operation touches the generator; so two runs
with one seed draw the same bytes, whatever else they do. -/
theorem rolls_of_seed (seed : UInt64) :
    (∀ run, Seeded seed run) ∧
      ∀ (run run' : List Operation) (n : Nat) (roll roll' : Roll),
        ((fresh seed).rolls run)[n]? = some roll → ((fresh seed).rolls run')[n]? = some roll' →
          roll.drawn = roll'.drawn := by
  refine ⟨seeded seed, ?_⟩
  intro run run' n roll roll' h h'
  rw [(seeded seed run).drawn_eq n roll h, (seeded seed run').drawn_eq n roll' h']

example : (fresh 42).rolls [.load { bytes := [0xC0, 0xFF, 0xC1, 0x00, 0xC2, 0x0F] }, .step, .tick,
    .keyDown 3 1, .step, .step] = [⟨0, 0xFF, 162, 162⟩, ⟨1, 0x00, 99, 0⟩, ⟨2, 0x0F, 125, 13⟩] := by
  decide +kernel

end Machine

end Chip8
