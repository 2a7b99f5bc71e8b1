/-!
# Hexadecimal numbers

Numbers in base sixteen, most significant digit first, in either case of
letters.  A number is written either in a fixed number of digits (`fixed`) or
in as many as it needs and at least so many (`padded`).  Reading back
(`value?`) takes upper-case digits only, and undoes writing them: a number
below `capacity k` is recovered from its `k` digits.
-/

namespace Chip8.Hex

/-- Which letters stand for the digits from ten to fifteen. -/
inductive LetterCase
  | upper
  | lower
  deriving DecidableEq, Repr

/-- The letter that stands for ten. -/
def LetterCase.ten : LetterCase → Nat
  | .upper => 0x41
  | .lower => 0x61

/-- The character of a single digit below sixteen. -/
def digit (c : LetterCase) (d : Nat) : Char :=
  if d < 10 then Char.ofNat (0x30 + d) else Char.ofNat (c.ten + (d - 10))

/-- The last `k` digits of a number, leading zeros included. -/
def fixed (c : LetterCase) : Nat → Nat → List Char
  | 0, _ => []
  | k + 1, n => fixed c k (n / 16) ++ [digit c (n % 16)]

/-- How many digits a number has; zero has one. -/
def digitCount (n : Nat) : Nat :=
  if n < 16 then 1 else digitCount (n / 16) + 1

/-- All digits of a number, filled up with leading zeros to at least `k`. -/
def padded (c : LetterCase) (k n : Nat) : List Char :=
  fixed c (max k (digitCount n)) n

/-- An address in a message: `0x` and at least `k` lower-case digits. -/
def address (k n : Nat) : String :=
  "0x" ++ String.ofList (padded .lower k n)

/-! ## Reading -/

/-- The digit that an upper-case character stands for. -/
def digitValue? (c : Char) : Option Nat :=
  if 0x30 ≤ c.toNat ∧ c.toNat ≤ 0x39 then some (c.toNat - 0x30)
  else if 0x41 ≤ c.toNat ∧ c.toNat ≤ 0x46 then some (c.toNat - 0x37)
  else none

/-- Whether a character is an upper-case digit. -/
def isDigit (c : Char) : Bool :=
  (digitValue? c).isSome

/-- The number that upper-case digits spell, continuing from `acc`. -/
def valueFrom? (acc : Nat) : List Char → Option Nat
  | [] => some acc
  | c :: r => (digitValue? c).bind fun d => valueFrom? (16 * acc + d) r

/-- How many numbers so many digits can write. -/
def capacity : Nat → Nat
  | 0 => 1
  | k + 1 => 16 * capacity k

/-- The number that upper-case digits spell. -/
def value? (cs : List Char) : Option Nat :=
  valueFrom? 0 cs

@[simp] theorem length_fixed (c : LetterCase) (k n : Nat) : (fixed c k n).length = k := by
  induction k generalizing n with
  | zero => rfl
  | succ k ih => simp [fixed, ih]

theorem digitValue?_digit {d : Nat} (h : d < 16) : digitValue? (digit .upper d) = some d := by
  have key : ∀ e : Fin 16, digitValue? (digit .upper e.val) = some e.val := by decide
  exact key ⟨d, h⟩

theorem isDigit_digit {d : Nat} (h : d < 16) : isDigit (digit .upper d) = true := by
  simp [isDigit, digitValue?_digit h]

theorem fixed_one {d : Nat} (h : d < 16) : fixed .upper 1 d = [digit .upper d] := by
  simp [fixed, Nat.mod_eq_of_lt h]

theorem isDigit_of_mem_fixed {k n : Nat} {c : Char} (h : c ∈ fixed .upper k n) :
    isDigit c = true := by
  induction k generalizing n with
  | zero => simp [fixed] at h
  | succ k ih =>
    simp only [fixed, List.mem_append, List.mem_singleton] at h
    rcases h with h | rfl
    · exact ih h
    · exact isDigit_digit (Nat.mod_lt _ (by decide))

theorem valueFrom?_append (acc : Nat) (xs ys : List Char) :
    valueFrom? acc (xs ++ ys) = (valueFrom? acc xs).bind fun a => valueFrom? a ys := by
  induction xs generalizing acc with
  | nil => rfl
  | cons x xs ih => simp [valueFrom?, Option.bind_assoc, ih]

/-- Reading continues a number by exactly the digits that were written. -/
theorem valueFrom?_fixed (k acc n : Nat) :
    valueFrom? acc (fixed .upper k n) = some (acc * capacity k + n % capacity k) := by
  induction k generalizing n with
  | zero => simp [fixed, valueFrom?, capacity, Nat.mod_one]
  | succ k ih =>
    have hd : n % 16 < 16 := Nat.mod_lt _ (by decide)
    have hmod : n % capacity (k + 1) = n % 16 + 16 * (n / 16 % capacity k) := by
      rw [capacity, Nat.mod_mul]
    have hacc : acc * capacity (k + 1) = 16 * (acc * capacity k) := by
      rw [capacity]
      ac_rfl
    simp only [fixed, valueFrom?_append, ih, Option.bind_some, valueFrom?, digitValue?_digit hd,
      hmod, hacc]
    congr 1
    omega

/-- A number below `capacity k` is recovered from its `k` digits. -/
theorem value?_fixed {k n : Nat} (h : n < capacity k) : value? (fixed .upper k n) = some n := by
  simp [value?, valueFrom?_fixed, Nat.mod_eq_of_lt h]

/-! ## Digits inside a text -/

/-- No digit stands at the start of a text, so digits before it end there. -/
def EndsBefore (rest : List Char) : Prop :=
  ∀ c ∈ rest.head?, isDigit c = false

theorem takeWhile_fixed_append (k n : Nat) {rest : List Char} (h : EndsBefore rest) :
    (fixed .upper k n ++ rest).takeWhile isDigit = fixed .upper k n := by
  rw [List.takeWhile_append_of_pos fun c hc => isDigit_of_mem_fixed hc]
  cases rest with
  | nil => simp
  | cons c r => simp [h c (by simp)]

theorem dropWhile_fixed_append (k n : Nat) {rest : List Char} (h : EndsBefore rest) :
    (fixed .upper k n ++ rest).dropWhile isDigit = rest := by
  rw [List.dropWhile_append_of_pos fun c hc => isDigit_of_mem_fixed hc]
  cases rest with
  | nil => rfl
  | cons c r => simp [h c (by simp)]

end Chip8.Hex
