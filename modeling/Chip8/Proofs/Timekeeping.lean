import Chip8.Proofs.FaultRules
import Chip8.Proofs.Forms
import Chip8.Proofs.Operations
import Chip8.Proofs.Parts

/-!
# Timekeeping

The machine has two timers, and one instruction for each that sets it: `Fx15`
the delay timer, `Fx18` the sound timer.  Every tick counts both of them down,
until they are at zero.  Nothing else that is done with a machine touches a
timer; a step that faults or waits does not, nor does a program that is loaded or
a key.

So what a timer is at can be told from the run alone: it is the value it was set
to last, less the ticks since then.

## Main definitions

* `Timer`: the two timers and the instructions that set them
* `Machine.Sets`, `Machine.NeverSets`: operations that set a timer, and runs
  without any
* `Machine.SetLast`: what a run set a timer to last, and how long ago
* `Machine.KeepsTime`: what the timers have to do with the run

## Main results

* `Machine.timer_perform_of_sets`, `Machine.timer_perform`: one operation
* `Machine.timer_performAll`: a run
* `Machine.keepsTime`: timers count down from what they were set to last
-/

namespace Chip8

/-- A countdown may be interrupted. -/
theorem Countdown.elapse_elapse (c : Countdown) (first rest : Nat) :
    (c.elapse first).elapse rest = c.elapse (first + rest) := by
  rw [elapse, toNat_elapse, Nat.sub_sub]
  rfl

/-- One of the two timers. -/
inductive Timer
  /-- What programs wait with. -/
  | delay
  /-- The tone sounds while this one runs. -/
  | sound
  deriving DecidableEq, Repr

namespace Timer

/-- The form of the words that set a timer. -/
def form : Timer → String
  | delay => "Fx15"
  | sound => "Fx18"

/-- The part of a machine that a timer is. -/
def part : Timer → Part
  | delay => .delay
  | sound => .sound

theorem part_ne_pc (t : Timer) : t.part ≠ .pc := by
  cases t with
  | _ => nofun

end Timer

/-- Only the instructions of the form of a timer may change it. -/
theorem Word.fits_of_part_mem {w : Word} {t : Timer} (h : t.part ∈ (Instruction.decode w).parts) :
    w.Fits t.form := by
  rcases Word.standsFor_decode w with hi | hi
  · rw [hi] at h
    cases h
  · generalize Instruction.decode w = i at hi h
    cases t with
    | delay =>
      cases hi with
      | ldDelay form => exact form
      | _ => simp [Timer.part, Instruction.parts] at h
    | sound =>
      cases hi with
      | ldSound form => exact form
      | _ => simp [Timer.part, Instruction.parts] at h

namespace Machine

/-- One of the timers of a machine. -/
def timer (m : Machine) : Timer → Countdown
  | .delay => m.timers.delay
  | .sound => m.timers.sound

/-- An operation sets a timer to a value: it is a step, and the word that it reads is one that
sets the timer to a register with that value. -/
def Sets (m : Machine) (t : Timer) (op : Operation) (v : UInt8) : Prop :=
  op = .step ∧ ∃ w, m.Reads w ∧ w.Fits t.form ∧ v = m.reg w.x

/-- No operation of a run sets a timer. -/
def NeverSets (m : Machine) (t : Timer) : List Operation → Prop
  | [] => True
  | op :: rest => (∀ v, ¬ m.Sets t op v) ∧ (m.perform op).1.NeverSets t rest

/-- What a run set a timer to last, if it ever did, and how many ticks there were since then, or
else since the start. -/
inductive SetLast (m : Machine) (t : Timer) (run : List Operation) : Option UInt8 → Nat → Prop
  | never (h : m.NeverSets t run) : SetLast m t run none (run.count .tick)
  | set (before : List Operation) {after : List Operation} {op : Operation} {v : UInt8}
      (split : run = before ++ op :: after) (sets : (m.performAll before).Sets t op v)
      (never : ((m.performAll before).perform op).1.NeverSets t after) :
      SetLast m t run (some v) (after.count .tick)

variable {m : Machine} {t : Timer} {op : Operation}

/-! ## One operation -/

theorem timer_of_same {after : Machine} (h : t.part.Same m after) : after.timer t = m.timer t := by
  cases t with
  | _ => exact h

/-- An operation that sets a timer leaves it at the value of the register. -/
theorem timer_perform_of_sets {v : UInt8} (h : m.Sets t op v) :
    (m.perform op).1.timer t = ⟨v⟩ := by
  obtain ⟨rfl, w, hreads, form, rfl⟩ := h
  have hfetch := (m.fetch_eq_ok_iff w).mpr hreads
  show m.step.machine.timer t = ⟨m.reg w.x⟩
  cases t with
  | delay =>
    rw [step_of_word hfetch, Word.decode_of_standsFor (.ldDelay form)]
    rfl
  | sound =>
    rw [step_of_word hfetch, Word.decode_of_standsFor (.ldSound form)]
    rfl

theorem timer_step_of_not_sets (h : ∀ v, ¬ m.Sets t .step v) : m.step.machine.timer t = m.timer t := by
  apply timer_of_same
  apply step_same m t.part_ne_pc
  intro w hw hmem
  exact h _ ⟨rfl, w, (m.fetch_eq_ok_iff w).mp hw, Word.fits_of_part_mem hmem, rfl⟩

/-- Unless an operation sets a timer, it leaves it as it is, if it is not a tick. -/
theorem timer_perform_of_ne_tick (hop : op ≠ .tick) (h : ∀ v, ¬ m.Sets t op v) :
    (m.perform op).1.timer t = m.timer t := by
  cases op with
  | tick => exact absurd rfl hop
  | step => exact timer_step_of_not_sets h
  | load image =>
    obtain ⟨memory, hload⟩ := m.exists_performLoad_eq image
    show (m.performLoad image).1.timer t = m.timer t
    rw [hload]
    cases t with
    | _ => rfl
  | keyDown | keyUp =>
    cases t with
    | _ => rfl

/-- A tick counts both timers down. -/
theorem timer_tick (m : Machine) (t : Timer) : m.tick.timer t = (m.timer t).tick := by
  cases t with
  | _ => rfl

/-- **One operation** that does not set a timer counts it down if it is a tick. -/
theorem timer_perform (h : ∀ v, ¬ m.Sets t op v) :
    (m.perform op).1.timer t = (m.timer t).elapse ([op].count .tick) := by
  by_cases hop : op = .tick
  · subst hop
    show m.tick.timer t = (m.timer t).elapse 1
    rw [timer_tick, Countdown.elapse_succ, Countdown.elapse_zero]
  · have hnot : .tick ∉ [op] := by
      simpa using Ne.symm hop
    rw [timer_perform_of_ne_tick hop h, List.count_eq_zero_of_not_mem hnot, Countdown.elapse_zero]

/-! ## A run -/

/-- **A run** that does not set a timer: the ticks count it down. -/
theorem timer_performAll_of_neverSets {run : List Operation} (h : m.NeverSets t run) :
    (m.performAll run).timer t = (m.timer t).elapse (run.count .tick) := by
  induction run generalizing m with
  | nil => exact (Countdown.elapse_zero _).symm
  | cons op rest ih =>
    obtain ⟨hop, hrest⟩ := h
    rw [performAll_cons, ih hrest, timer_perform hop, Countdown.elapse_elapse, ← List.count_append]
    rfl

/-- **A run**: a timer has counted down from what it was set to last, or else from what it was at
in the beginning. -/
theorem timer_performAll {run : List Operation} {v : Option UInt8} {n : Nat}
    (h : m.SetLast t run v n) :
    (m.performAll run).timer t = (v.elim (m.timer t) Countdown.mk).elapse n := by
  cases h with
  | never h => exact timer_performAll_of_neverSets h
  | set before split sets never =>
    rw [split, performAll_append, performAll_cons, timer_performAll_of_neverSets never,
      timer_perform_of_sets sets]
    rfl

/-- Every run either set a timer last at some time, or never. -/
theorem exists_setLast (m : Machine) (t : Timer) (run : List Operation) :
    ∃ v n, m.SetLast t run v n := by
  induction run generalizing m with
  | nil => exact ⟨none, _, .never trivial⟩
  | cons op rest ih =>
    obtain ⟨v, n, hrest⟩ := ih (m.perform op).1
    cases hrest with
    | set before split sets never =>
      rw [split]
      exact ⟨_, _, .set (op :: before) rfl sets never⟩
    | never hrest =>
      -- What the rest does not do, the first operation may do.
      by_cases hop : ∃ v, m.Sets t op v
      · obtain ⟨v, hv⟩ := hop
        exact ⟨_, _, .set [] rfl hv hrest⟩
      · exact ⟨_, _, .never ⟨fun v hv => hop ⟨v, hv⟩, hrest⟩⟩

/-! ## Since the machine was switched on -/

/-- What the timers have to do with a run, from where it starts to where it has got. -/
structure KeepsTime (start : Machine) (run : List Operation) (now : Machine) : Prop where
  exists_setLast : ∀ t, ∃ v n, start.SetLast t run v n
  /-- A timer is at what it was set to last, less the ticks since then. -/
  value_eq : ∀ t v n, start.SetLast t run v n →
    (now.timer t).value.toNat = (v.getD 0).toNat - n
  /-- The tone sounds as long as the sound timer is above zero. -/
  toneOn_iff : ∀ v n, start.SetLast .sound run v n →
    (now.toneOn = true ↔ 0 < (v.getD 0).toNat - n)
  /-- A program that reads the delay timer next reads just that. -/
  read_eq : ∀ w v n, now.Reads w → w.Fits "Fx07" → start.SetLast .delay run v n →
    now.step.result = .ok .next ∧ (now.step.machine.reg w.x).toNat = (v.getD 0).toNat - n
  /-- Without a tick, nothing but its own instruction changes a timer. -/
  timer_eq : ∀ t further, .tick ∉ further → now.NeverSets t further →
    (now.performAll further).timer t = now.timer t

/-- Timers are at zero when the machine is switched on. -/
theorem toNat_timer_performAll {random : Generator} {run : List Operation} {v : Option UInt8}
    {n : Nat} (h : (switchedOn random).SetLast t run v n) :
    (((switchedOn random).performAll run).timer t).value.toNat = (v.getD 0).toNat - n := by
  rw [timer_performAll h, Countdown.toNat_elapse]
  cases v with
  | none =>
    cases t with
    | _ => rfl
  | some v => rfl

theorem toneOn_iff (m : Machine) : m.toneOn = true ↔ 0 < (m.timer .sound).value.toNat := by
  show decide (m.timers.sound.value ≠ 0) = true ↔ 0 < m.timers.sound.value.toNat
  rw [decide_eq_true_iff, ne_eq, ← UInt8.toNat_inj]
  exact Nat.pos_iff_ne_zero.symm

/-- A step that reads the delay timer. -/
theorem step_of_ldFromDelay {w : Word} (hread : m.Reads w) (form : w.Fits "Fx07") :
    m.step = done (m.advance.setReg w.x (m.timer .delay).value) := by
  rw [step_of_word ((m.fetch_eq_ok_iff w).mpr hread), Word.decode_of_standsFor (.ldFromDelay form)]
  rfl

/-- **Timers count down from what they were set to last**, in every run since the machine was
switched on, and nothing else has a say in it. -/
theorem keepsTime (random : Generator) (run : List Operation) :
    (switchedOn random).KeepsTime run ((switchedOn random).performAll run) where
  exists_setLast t := (switchedOn random).exists_setLast t run
  value_eq _ _ _ h := toNat_timer_performAll h
  toneOn_iff v n h := by
    rw [toneOn_iff, toNat_timer_performAll h]
  read_eq w v n hread form h := by
    rw [step_of_ldFromDelay hread form, ← toNat_timer_performAll h]
    refine ⟨rfl, congrArg UInt8.toNat ?_⟩
    exact (reg_setReg _ w.x w.x _).trans (if_pos rfl)
  timer_eq t further htick hnever := by
    rw [timer_performAll_of_neverSets hnever, List.count_eq_zero_of_not_mem htick,
      Countdown.elapse_zero]

end Machine

end Chip8
