/-!
# Countdown timers

A countdown holds a byte that each tick lowers by one until it is zero.  The
machine has two of them, for delays and for sound, which tick together.

## Main results

* `Countdown.toNat_tick`: a tick lowers the value by one and stops at zero
* `Countdown.elapse_succ`, `Timers.elapse_succ`: what so many ticks come to
-/

namespace Chip8

/-- A countdown timer. -/
structure Countdown where
  /-- The ticks left. -/
  value : UInt8 := 0
  deriving DecidableEq, Repr

namespace Countdown

/-- A countdown runs while ticks are left. -/
def isRunning (c : Countdown) : Bool :=
  c.value ≠ 0

/-- The countdown one tick later. -/
def tick (c : Countdown) : Countdown :=
  ⟨UInt8.ofNat (c.value.toNat - 1)⟩

/-- A tick lowers the value by one and stops at zero. -/
theorem toNat_tick (c : Countdown) : c.tick.value.toNat = c.value.toNat - 1 := by
  have h := c.value.toNat_lt
  simp only [tick, UInt8.toNat_ofNat']
  omega

/-- The countdown so many ticks later. -/
def elapse (c : Countdown) (ticks : Nat) : Countdown :=
  ⟨UInt8.ofNat (c.value.toNat - ticks)⟩

/-- So many ticks lower the value by as much and stop at zero. -/
theorem toNat_elapse (c : Countdown) (ticks : Nat) :
    (c.elapse ticks).value.toNat = c.value.toNat - ticks := by
  have h := c.value.toNat_lt
  simp only [elapse, UInt8.toNat_ofNat']
  omega

theorem elapse_zero (c : Countdown) : c.elapse 0 = c := by
  simp [elapse]

/-- The ticks come one after the other. -/
theorem elapse_succ (c : Countdown) (ticks : Nat) :
    c.elapse (ticks + 1) = (c.elapse ticks).tick := by
  have hvalue : (c.elapse (ticks + 1)).value = (c.elapse ticks).tick.value := by
    rw [← UInt8.toNat_inj, toNat_elapse, toNat_tick, toNat_elapse, Nat.sub_sub]
  exact congrArg Countdown.mk hvalue

end Countdown

/-- The two timers of the machine. -/
structure Timers where
  /-- What programs wait with. -/
  delay : Countdown := {}
  /-- The tone sounds while this one runs. -/
  sound : Countdown := {}
  deriving DecidableEq, Repr

namespace Timers

/-- Both timers one tick later. -/
def tick (t : Timers) : Timers :=
  ⟨t.delay.tick, t.sound.tick⟩

/-- Both timers so many ticks later. -/
def elapse (t : Timers) (ticks : Nat) : Timers :=
  ⟨t.delay.elapse ticks, t.sound.elapse ticks⟩

theorem elapse_zero (t : Timers) : t.elapse 0 = t := by
  simp [elapse, Countdown.elapse_zero]

/-- The ticks come one after the other. -/
theorem elapse_succ (t : Timers) (ticks : Nat) : t.elapse (ticks + 1) = (t.elapse ticks).tick := by
  simp [elapse, tick, Countdown.elapse_succ]

end Timers

end Chip8
