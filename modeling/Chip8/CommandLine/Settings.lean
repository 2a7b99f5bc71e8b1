import Chip8.Keyboard.Keymap
import Chip8.Notice
import Chip8.Session.Run
import Chip8.Text.Decimal

/-!
# Settings

What can be chosen on the command line, the values that hold if nothing is
chosen, and how the text of a value is read.
-/

namespace Chip8

/-- Which notices are written to the log. -/
inductive LogLevel
  /-- None. -/
  | off
  /-- Those that matter at least so much. -/
  | upTo (severity : Severity)
  deriving DecidableEq, Repr

namespace LogLevel

/-- The name of a level. -/
def name : LogLevel → String
  | off => "OFF"
  | upTo severity => severity.name

/-- All levels. -/
def all : List LogLevel :=
  [off, upTo .error, upTo .warn, upTo .info, upTo .debug, upTo .trace]

/-- The level of a name, in letters of either case. -/
def ofName? (s : String) : Option LogLevel :=
  all.find? fun level => level.name.toList == s.toList.map Char.toUpper

/-- Whether a notice is written to the log. -/
def allows : LogLevel → Notice → Bool
  | off, _ => false
  | upTo severity, n => n.severity.rank ≤ severity.rank

end LogLevel

/-- What can be chosen on the command line. -/
structure Settings where
  /-- The path of the program image. -/
  image : String
  /-- The rates of instructions and timers. -/
  rates : Rates := {}
  /-- How long a strike holds its key, in milliseconds. -/
  holdTime : UInt64 := 100
  /-- Which characters stand for which keys. -/
  layout : Layout := .conventional
  /-- The seed of random numbers; none for a different one each time. -/
  seed : Option UInt64 := none
  /-- The path of the log. -/
  logFile : String := "chip8.log"
  /-- What is written to the log. -/
  logLevel : LogLevel := .upTo .info
  deriving DecidableEq, Repr

/-! ## Reading values -/

/-- A rate: at least one, and at most what 32 bits hold. -/
def rate? (s : String) : Option UInt32 :=
  (Decimal.value? s).bind fun n =>
    if 1 ≤ n ∧ n < UInt32.size then some (UInt32.ofNat n) else none

/-- A number of 64 bits. -/
def number64? (s : String) : Option UInt64 :=
  (Decimal.value? s).bind fun n => if n < UInt64.size then some (UInt64.ofNat n) else none

/-- The layout of a name. -/
def Layout.ofName? (s : String) : Option Layout :=
  if s = "conventional" then some .conventional
  else if s = "literal" then some .literal
  else none

end Chip8
