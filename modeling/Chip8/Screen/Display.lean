/-!
# Displays

A display is anything that frames can be put on.  It is asked to show the
packed bytes of a frame together with whether the tone sounds, and it may fail
to, in which case it says why.

## Main definitions

* `Display`: what a display can do
* `Recorder`: a display that remembers what it was asked to show
* `Unreliable`: a display that fails at chosen attempts
-/

namespace Chip8

/-- Why a display did not do what it was asked. -/
inductive DisplayError
  /-- The frame does not have as many bytes as the display needs. -/
  | wrongSize (needed got : Nat)
  /-- The frame has fewer bits than the display has pixels. -/
  | uncovered (pixels bytes : Nat)
  /-- The device failed. -/
  | device (reason : String)
  deriving DecidableEq, Repr

/-- The error in words. -/
def DisplayError.message : DisplayError → String
  | wrongSize needed got =>
    "MonoTermDisplay needs " ++ toString needed ++ " bytes of frame data, got " ++ toString got
  | uncovered pixels bytes =>
    toString bytes ++ " bytes do not cover " ++ toString pixels ++ " pixels"
  | device reason => reason

/-- Anything that frames can be put on. -/
class Display (δ : Type) where
  /-- Show a frame, and whether the tone sounds. -/
  draw : δ → List UInt8 → Bool → Option DisplayError × δ
  /-- Show nothing. -/
  clear : δ → Option DisplayError × δ
  /-- How many bytes a frame should have. -/
  sizeBytes : δ → Nat

/-! ## A display that remembers -/

/-- A display that remembers how often it was asked, and what it was asked to show last. -/
structure Recorder where
  /-- How many frames were shown. -/
  frames : Nat := 0
  /-- How often it was cleared. -/
  clears : Nat := 0
  /-- The frame shown last; empty before the first. -/
  lastFrame : List UInt8 := []
  /-- Whether the tone sounded with that frame. -/
  lastTone : Bool := false
  deriving DecidableEq, Repr

/-- The record after one more frame. -/
def Recorder.add (r : Recorder) (frame : List UInt8) (tone : Bool) : Recorder :=
  { r with frames := r.frames + 1, lastFrame := frame, lastTone := tone }

instance : Display Recorder where
  draw r frame tone := (none, r.add frame tone)
  clear r := (none, { r with clears := r.clears + 1 })
  sizeBytes _ := 64 * 32 / 8

/-! ## A display that fails -/

/-- A display that passes on what it is asked, but fails at chosen attempts. -/
structure Unreliable (δ : Type) where
  /-- The display behind it. -/
  inner : δ
  /-- The reason for which an attempt to draw fails, counted from one. -/
  drawFault : Nat → Option String
  /-- The reason for which clearing fails. -/
  clearFault : Option String := none
  /-- How many attempts to draw there were. -/
  attempts : Nat := 0

instance {δ : Type} [Display δ] : Display (Unreliable δ) where
  draw d frame tone :=
    match d.drawFault (d.attempts + 1) with
    | some reason => (some (.device reason), { d with attempts := d.attempts + 1 })
    | none =>
      let (error, inner) := Display.draw d.inner frame tone
      (error, { d with attempts := d.attempts + 1, inner })
  clear d :=
    match d.clearFault with
    | some reason => (some (.device reason), d)
    | none =>
      let (error, inner) := Display.clear d.inner
      (error, { d with inner })
  sizeBytes d := Display.sizeBytes d.inner

end Chip8
