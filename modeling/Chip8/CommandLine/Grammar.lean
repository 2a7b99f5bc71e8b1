import Chip8.CommandLine.Settings
import Chip8.CommandLine.Usage

/-!
# The grammar of command lines

A command line is one positional argument, the program image, among options
with a value (`--name value` or `--name=value`) and two flags (`--help` or
`-h`, `--version` or `-V`).  Only `--help` asks for all of the help.  After `--`
every argument is positional.

Arguments are taken from left to right and the first error wins.  A value that
stands for itself is not judged when it is met, but when the next argument
begins; until then it is *pending*.  So an argument that is not known at all
is reported before a bad value in front of it.

## Main definitions

* `Argument.ofText`: what kind of argument a text is
* `Reader.take`: taking the next argument
* `Settings.ofArgs`: the settings of a command line
-/

namespace Chip8

/-- The options that have a value. -/
inductive OptionName
  | speed
  | timerHz
  | keyHoldMs
  | keymap
  | seed
  | logFile
  | logLevel
  deriving DecidableEq, Repr

/-- The option of a name. -/
def OptionName.ofName? (name : String) : Option OptionName :=
  if name = "speed" then some .speed
  else if name = "timer-hz" then some .timerHz
  else if name = "key-hold-ms" then some .keyHoldMs
  else if name = "keymap" then some .keymap
  else if name = "seed" then some .seed
  else if name = "log-file" then some .logFile
  else if name = "log-level" then some .logLevel
  else none

/-! ## Kinds of arguments -/

/-- The kinds of arguments. -/
inductive Argument
  /-- Two dashes alone. -/
  | separator
  /-- A name after two dashes, and a value after an equals sign. -/
  | long (name : String) (value : Option String)
  /-- Letters after one dash. -/
  | short (first : Char)
  /-- Anything else; also one dash alone. -/
  | plain (text : String)
  deriving DecidableEq, Repr

namespace Argument

/-- The name and the value of what stands after two dashes. -/
def ofLong (cs : List Char) : Argument :=
  match cs.dropWhile (· ≠ '=') with
  | [] => long (String.ofList cs) none
  | _ :: value => long (String.ofList (cs.takeWhile (· ≠ '='))) (some (String.ofList value))

/-- What kind of argument a text is. -/
def ofText (s : String) : Argument :=
  match s.toList with
  | ['-', '-'] => separator
  | '-' :: '-' :: r => ofLong r
  | '-' :: c :: _ => short c
  | _ => plain s

end Argument

/-! ## Values -/

/-- The values that have been given so far. -/
structure Given where
  image : Option String := none
  speed : Option UInt32 := none
  timerHz : Option UInt32 := none
  keyHoldMs : Option UInt64 := none
  keymap : Option Layout := none
  seed : Option UInt64 := none
  logFile : Option String := none
  logLevel : Option LogLevel := none

namespace Given

/-- Whether the value of an option has been given. -/
def has (g : Given) : OptionName → Bool
  | .speed => g.speed.isSome
  | .timerHz => g.timerHz.isSome
  | .keyHoldMs => g.keyHoldMs.isSome
  | .keymap => g.keymap.isSome
  | .seed => g.seed.isSome
  | .logFile => g.logFile.isSome
  | .logLevel => g.logLevel.isSome

/-- The value that was read, or an error if it could not be. -/
def require {α : Type} (e : UsageError) : Option α → Except UsageError α
  | some a => .ok a
  | none => .error e

/-- A path, which must not be empty. -/
def path? (s : String) : Option String :=
  if s = "" then none else some s

/-- Take in the value of an option. -/
def set (g : Given) (o : OptionName) (value : String) : Except UsageError Given :=
  match o with
  | .speed => (require .valueValidation (rate? value)).map fun v => { g with speed := some v }
  | .timerHz => (require .valueValidation (rate? value)).map fun v => { g with timerHz := some v }
  | .keyHoldMs =>
    (require .valueValidation (number64? value)).map fun v => { g with keyHoldMs := some v }
  | .keymap =>
    (require .invalidValue (Layout.ofName? value)).map fun v => { g with keymap := some v }
  | .seed => (require .valueValidation (number64? value)).map fun v => { g with seed := some v }
  | .logFile => (require .invalidValue (path? value)).map fun v => { g with logFile := some v }
  | .logLevel =>
    (require .valueValidation (LogLevel.ofName? value)).map fun v => { g with logLevel := some v }

/-- Take in the value of an option that may be given only once. -/
def setOnce (g : Given) (o : OptionName) (value : String) : Except UsageError Given :=
  if g.has o then .error .argumentConflict else g.set o value

/-- Take in the program image. -/
def setImage (g : Given) (path : String) : Except UsageError Given :=
  (require .invalidValue (path? path)).map fun p => { g with image := some p }

/-- The settings that result, if the program image was given. -/
def settings (g : Given) : Except UsageError Settings :=
  match g.image with
  | none => .error .missingRequiredArgument
  | some image =>
    .ok {
      image
      rates := { speed := g.speed.getD 500, timer := g.timerHz.getD 60 }
      holdTime := g.keyHoldMs.getD 100
      layout := g.keymap.getD .conventional
      seed := g.seed
      logFile := g.logFile.getD "chip8.log"
      logLevel := g.logLevel.getD (.upTo .info) }

end Given

/-! ## Reading from left to right -/

/-- What has been met but not yet judged. -/
inductive Pending
  /-- Nothing. -/
  | nothing
  /-- An option that still needs its value. -/
  | awaiting (o : OptionName)
  /-- An option with its value. -/
  | value (o : OptionName) (text : String)
  /-- The program image. -/
  | image (path : String)
  deriving DecidableEq, Repr

/-- How far a command line has been read. -/
structure Reader where
  /-- The options that are known. -/
  option? : String → Option OptionName
  /-- The values that have been judged. -/
  given : Given := {}
  /-- What has not been judged yet. -/
  pending : Pending := .nothing
  /-- Whether a positional argument has been met. -/
  imageMet : Bool := false
  /-- Whether all further arguments are positional. -/
  onlyPositional : Bool := false

namespace Reader

/-- Judge what is pending. -/
def settle (r : Reader) : Except UsageError Reader :=
  match r.pending with
  | .nothing => .ok r
  | .awaiting _ => .error .invalidValue
  | .value o text => (r.given.setOnce o text).map fun given => { r with given, pending := .nothing }
  | .image path => (r.given.setImage path).map fun given => { r with given, pending := .nothing }

/-- Judge what is pending, and then end with an error. -/
def settleThen (r : Reader) (e : UsageError) : Except UsageError Reader :=
  r.settle.bind fun _ => .error e

/-- Take a positional argument. -/
def takePositional (r : Reader) (text : String) : Except UsageError Reader :=
  -- One argument too many is reported even if what is pending is wrong as well.
  if r.imageMet then .error .unknownArgument
  else r.settle.map fun r => { r with pending := .image text, imageMet := true }

/-- Take an argument that is neither an option nor a flag. -/
def takePlain (r : Reader) (text : String) : Except UsageError Reader :=
  match r.pending with
  | .awaiting o => .ok { r with pending := .value o text }
  | _ => r.takePositional text

/-- Take a flag, which must not have a value. -/
def takeFlag (r : Reader) (e : UsageError) (value : Option String) : Except UsageError Reader :=
  if value.isSome then .error .tooManyValues else r.settleThen e

/-- Take an option: a value after an equals sign is judged at once. -/
def takeOption (r : Reader) (o : OptionName) (value : Option String) : Except UsageError Reader :=
  r.settle.bind fun r =>
    match value with
    -- Whether the option is given twice is found when its value is judged.
    | none => .ok { r with pending := .awaiting o }
    | some text => (r.given.setOnce o text).map fun given => { r with given }

/-- Take what stands after two dashes. -/
def takeLong (r : Reader) (name : String) (value : Option String) : Except UsageError Reader :=
  if name = "help" then r.takeFlag (.displayHelp true) value
  else if name = "version" then r.takeFlag .displayVersion value
  else
    match r.option? name with
    | some o => r.takeOption o value
    | none => .error .unknownArgument

/-- Take letters after one dash, of which the first decides. -/
def takeShort (r : Reader) (first : Char) : Except UsageError Reader :=
  if first = 'h' then r.settleThen (.displayHelp false)
  else if first = 'V' then r.settleThen .displayVersion
  else .error .unknownArgument

/-- Take the next argument. -/
def take (r : Reader) (text : String) : Except UsageError Reader :=
  if r.onlyPositional then r.takePositional text
  else
    match Argument.ofText text with
    | .separator => .ok { r with onlyPositional := true }
    | .long name value => r.takeLong name value
    | .short first => r.takeShort first
    | .plain text => r.takePlain text

/-- Take all arguments, judge what is pending at the end, and give the settings. -/
def read (r : Reader) : List String → Except UsageError Settings
  | [] => r.settle.bind fun r => r.given.settings
  | text :: rest => (r.take text).bind fun r => r.read rest

end Reader

/-- The settings of a command line. -/
def Settings.ofArgs (args : List String) : Except UsageError Settings :=
  ({ option? := OptionName.ofName? } : Reader).read args

/-- The path of a program image, on a command line without options. -/
def imageOfArgs (args : List String) : Except UsageError String :=
  (({ option? := fun _ => none } : Reader).read args).map Settings.image

end Chip8
