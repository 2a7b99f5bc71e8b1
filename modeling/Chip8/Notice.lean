import Chip8.Fault
import Chip8.Instruction.Word
import Chip8.Memory.Image
import Chip8.Text.Quoted

/-!
# Notices

What the program has to tell about its work, without anybody having asked.
Operations return notices next to their results; whoever runs them may write
them to a log.
-/

namespace Chip8

/-- How much a notice matters. -/
inductive Severity
  | error
  | warn
  | info
  | debug
  | trace
  deriving DecidableEq, Repr

/-- The name of a severity. -/
def Severity.name : Severity → String
  | error => "ERROR"
  | warn => "WARN"
  | info => "INFO"
  | debug => "DEBUG"
  | trace => "TRACE"

/-- How much a severity lets through: those that matter more have a lower rank. -/
def Severity.rank : Severity → Nat
  | error => 1
  | warn => 2
  | info => 3
  | debug => 4
  | trace => 5

/-- Something to tell. -/
inductive Notice
  /-- A machine code routine was called from the instruction at an address. -/
  | routineIgnored (target : Address) (site : UInt16)
  /-- The word at an address stands for no instruction. -/
  | unsupported (w : Word) (site : UInt16)
  /-- The instruction at an address faulted, and no further one is run. -/
  | halting (site : UInt16) (fault : Fault)
  /-- A release came after a newer press of its key. -/
  | staleRelease (code : UInt8)
  /-- A character stands for no key. -/
  | unmapped (c : Char)
  /-- A session begins at these rates. -/
  | running (speed timerRate : Nat)
  /-- A session ended after so many instruction ticks. -/
  | sessionEnded (ticks : Nat)
  /-- Nobody is left to send key events. -/
  | inputGone
  /-- The program image at a path was loaded. -/
  | loaded (path : String) (size : Nat)
  /-- The program image at a path was not loaded. -/
  | cannotLoad (path : String) (error : LoadError)
  deriving DecidableEq, Repr

namespace Notice

/-- How much a notice matters. -/
def severity : Notice → Severity
  | routineIgnored .. => .debug
  | unsupported .. => .warn
  | halting .. => .error
  | staleRelease _ => .trace
  | unmapped _ => .debug
  | running .. => .info
  | sessionEnded _ => .info
  | inputGone => .warn
  | loaded .. => .info
  | cannotLoad .. => .error

/-- A notice in words. -/
def message : Notice → String
  | routineIgnored target site =>
    "ignoring SYS 0x" ++ String.ofList (Hex.fixed .upper 3 target.val)
      ++ " at " ++ Hex.address 3 site.toNat
  | unsupported w site =>
    "instruction " ++ String.ofList (Hex.fixed .upper 4 w.toNat)
      ++ " at " ++ Hex.address 3 site.toNat ++ " is not supported"
  | halting site fault => "halting at " ++ Hex.address 3 site.toNat ++ ": " ++ fault.message
  | staleRelease code =>
    "stale release of key " ++ String.ofList (Hex.padded .upper 1 code.toNat) ++ " ignored"
  | unmapped c => "can't map " ++ Quoted.char c ++ " to a CHIP-8 key"
  | running speed timerRate =>
    "running at " ++ toString speed ++ " instructions/s, timers at " ++ toString timerRate ++ "Hz"
  | sessionEnded ticks => "session ended after " ++ toString ticks ++ " ticks"
  | inputGone => "input went away, stopping"
  | loaded path size => "loaded " ++ path ++ " (" ++ toString size ++ " bytes)"
  | cannotLoad path error => "can't load " ++ path ++ ": " ++ error.message

end Notice

end Chip8
