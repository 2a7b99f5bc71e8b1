import Chip8.Machine.Step

/-!
# Operations on a machine

Whoever owns a machine can do five things with it: load a program, make a step,
let the timers tick, and let a key go down or up.  An operation leaves a machine
and gives an answer.  A run is any sequence of operations, in any order, and
the machines that runs reach from one that was just switched on are all there
are.

## Main definitions

* `Operation`, `Machine.perform`: what can be done, and what becomes of it
* `Machine.performAll`: a run
* `Machine.switchedOn`: where runs start

## Main results

* `exists_performLoad_eq`: what loading leaves alone
* `performAll_append`: a run can be interrupted anywhere
* `performAll_induction`: what every operation keeps, every run keeps
-/

namespace Chip8

/-- Something done with a machine. -/
inductive Operation
  /-- Load a program image. -/
  | load (image : Image)
  /-- Run one instruction. -/
  | step
  /-- Let the timers tick. -/
  | tick
  /-- Let a key go down. -/
  | keyDown (code : UInt8) (generation : UInt64)
  /-- Let a key go up that went down in some generation. -/
  | keyUp (code : UInt8) (generation : UInt64)
  deriving DecidableEq, Repr

/-- What an operation answers. -/
inductive Answer
  /-- How many bytes were loaded, or why none were. -/
  | loaded (result : Except LoadError Nat)
  /-- What became of the instruction, and what there is to tell about it. -/
  | stepped (result : Except Fault Flow) (notices : List Notice)
  /-- Whether the release counted. -/
  | released (accepted : Bool)
  /-- Nothing. -/
  | done

namespace Machine

/-- A machine as it is switched on, with a source of random numbers. -/
def switchedOn (random : Generator) : Machine :=
  { fresh 0 with random }

/-- A seed is one way to get a source of random numbers. -/
theorem switchedOn_ofSeed (seed : UInt64) : switchedOn (Generator.ofSeed seed) = fresh seed :=
  rfl

/-- Load a program image; the machine stays as it is if that fails. -/
def performLoad (m : Machine) (image : Image) : Machine × Answer :=
  match m.load image with
  | .ok loaded => (loaded, .loaded (.ok image.bytes.length))
  | .error e => (m, .loaded (.error e))

/-- Loading changes nothing but memory. -/
theorem exists_performLoad_eq (m : Machine) (image : Image) :
    ∃ memory, (m.performLoad image).1 = { m with memory } := by
  unfold performLoad load
  cases m.memory.load image with
  | ok memory => exact ⟨memory, rfl⟩
  | error e => exact ⟨m.memory, rfl⟩

/-- What becomes of the machine under an operation, and the answer. -/
def perform (m : Machine) : Operation → Machine × Answer
  | .load image => m.performLoad image
  | .step => (m.step.machine, .stepped m.step.result m.step.notices)
  | .tick => (m.tick, .done)
  | .keyDown code generation => (m.keyDown code generation, .done)
  | .keyUp code generation =>
    ((m.keyUp code generation).2, .released (m.keyUp code generation).1)

/-- The machine after a run. -/
def performAll (m : Machine) : List Operation → Machine
  | [] => m
  | op :: rest => (m.perform op).1.performAll rest

@[simp] theorem performAll_nil (m : Machine) : m.performAll [] = m := rfl

@[simp] theorem performAll_cons (m : Machine) (op : Operation) (rest : List Operation) :
    m.performAll (op :: rest) = (m.perform op).1.performAll rest := rfl

/-- A run can be interrupted anywhere. -/
theorem performAll_append (m : Machine) (first rest : List Operation) :
    m.performAll (first ++ rest) = (m.performAll first).performAll rest := by
  induction first generalizing m with
  | nil => rfl
  | cons op first ih => exact ih (m.perform op).1

/-- What every operation keeps, every run keeps. -/
theorem performAll_induction {P : Machine → Prop} (hop : ∀ m op, P m → P (m.perform op).1)
    {m : Machine} (hm : P m) (ops : List Operation) : P (m.performAll ops) := by
  induction ops generalizing m with
  | nil => exact hm
  | cons op rest ih => exact ih (hop m op hm)

end Machine

end Chip8
