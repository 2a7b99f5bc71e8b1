import Chip8.Nibble

/-!
# Banks

A bank holds one value for each nibble: the registers are a bank of bytes, the
keypad is a bank of key states.  The one view of a bank is `get`, and
`get_set` says what setting a value does to it.

## Main definitions

* `Bank.get`, `Bank.set`: the value of a nibble
* `Bank.replicate`, `Bank.ofFn`: banks from a value or from a rule

## Main results

* `Bank.get_set`: the value set is found where it was put, and all others stay
* `Bank.ext_get`: a bank is known by its values
-/

namespace Chip8

/-- Sixteen values, one for each nibble. -/
structure Bank (α : Type) where
  /-- The values in the order of their nibbles. -/
  values : Vector α 16
  deriving DecidableEq, Repr

namespace Bank

variable {α : Type}

/-- The same value for every nibble. -/
def replicate (a : α) : Bank α :=
  ⟨Vector.replicate 16 a⟩

/-- The values that a rule gives. -/
def ofFn (f : Nibble → α) : Bank α :=
  ⟨Vector.ofFn f⟩

/-- The value of a nibble. -/
def get (b : Bank α) (k : Nibble) : α :=
  b.values.get k

/-- The bank with the value of one nibble replaced. -/
def set (b : Bank α) (k : Nibble) (a : α) : Bank α :=
  ⟨b.values.set k.val a k.isLt⟩

/-- All values in the order of their nibbles. -/
def toList (b : Bank α) : List α :=
  b.values.toList

/-! ## What the operations do to the view -/

theorem get_eq_getElem (b : Bank α) (k : Nibble) : b.get k = b.values[k.val] :=
  rfl

@[simp] theorem get_replicate (a : α) (k : Nibble) : (replicate a).get k = a := by
  simp [get_eq_getElem, replicate]

@[simp] theorem get_ofFn (f : Nibble → α) (k : Nibble) : (ofFn f).get k = f k := by
  simp [get_eq_getElem, ofFn]

/-- The value set is found where it was put, and all others stay. -/
theorem get_set (b : Bank α) (k j : Nibble) (a : α) :
    (b.set k a).get j = if j = k then a else b.get j := by
  simp only [get_eq_getElem, set, Vector.getElem_set, Fin.val_inj]
  by_cases h : k = j
  · simp [h]
  · simp [h, Ne.symm h]

@[simp] theorem length_toList (b : Bank α) : b.toList.length = 16 := by
  simp [toList]

@[simp] theorem getElem?_toList (b : Bank α) (k : Nibble) :
    b.toList[k.val]? = some (b.get k) := by
  simp [toList, get_eq_getElem]

/-- A bank is known by its values. -/
theorem ext_get {b c : Bank α} (h : ∀ k, b.get k = c.get k) : b = c := by
  obtain ⟨v⟩ := b
  obtain ⟨w⟩ := c
  congr 1
  apply Vector.ext
  intro i hi
  exact h ⟨i, hi⟩

end Bank

end Chip8
