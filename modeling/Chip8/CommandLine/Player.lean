import Chip8.CommandLine.FileError
import Chip8.CommandLine.Grammar

/-!
# The player

The player loads a program image and plays it.  It creates its log before it
loads the image, so that the log can tell why there is nothing to play.  Only
if the image was loaded does it go on to a session.  What it needs of the system
on which it runs is a `System`, so it does the same on a disk and elsewhere.
-/

namespace Chip8.Player

/-- What the program tells about itself. -/
def about : About where
  name := "chip8"
  version := "0.1.0"
  summary := [
    "CHIP-8 interpreter for the terminal",
    "",
    "Usage: chip8 [OPTIONS] <ROM>",
    "",
    "Arguments:",
    "  <ROM>  program image to load at 0x200",
    "",
    "Options:",
    "      --speed <SPEED>              instructions per second [default: 500]",
    "      --timer-hz <TIMER_HZ>        delay/sound timer rate in Hz [default: 60]",
    "      --key-hold-ms <KEY_HOLD_MS>  how long a key stays down after the terminal last "
      ++ "reported it [default: 100]",
    "      --keymap <KEYMAP>            [default: conventional] [possible values: conventional, "
      ++ "literal]",
    "      --seed <SEED>                seed for the RND instruction, for reproducible runs",
    "      --log-file <LOG_FILE>        the terminal belongs to the display, so diagnostics go "
      ++ "here [default: chip8.log]",
    "      --log-level <LOG_LEVEL>      [default: INFO]",
    "  -h, --help                       Print help (see more with '--help')",
    "  -V, --version                    Print version"]
  help := [
    "CHIP-8 interpreter for the terminal",
    "",
    "Usage: chip8 [OPTIONS] <ROM>",
    "",
    "Arguments:",
    "  <ROM>",
    "          program image to load at 0x200",
    "",
    "Options:",
    "      --speed <SPEED>",
    "          instructions per second",
    "          ",
    "          [default: 500]",
    "",
    "      --timer-hz <TIMER_HZ>",
    "          delay/sound timer rate in Hz",
    "          ",
    "          [default: 60]",
    "",
    "      --key-hold-ms <KEY_HOLD_MS>",
    "          how long a key stays down after the terminal last reported it",
    "          ",
    "          [default: 100]",
    "",
    "      --keymap <KEYMAP>",
    "          Possible values:",
    "          - conventional: 1234 / qwer / asdf / zxcv, laid out like the original keypad",
    "          - literal:      0-9 and a-f",
    "          ",
    "          [default: conventional]",
    "",
    "      --seed <SEED>",
    "          seed for the RND instruction, for reproducible runs",
    "",
    "      --log-file <LOG_FILE>",
    "          the terminal belongs to the display, so diagnostics go here",
    "          ",
    "          [default: chip8.log]",
    "",
    "      --log-level <LOG_LEVEL>",
    "          [default: INFO]",
    "",
    "  -h, --help",
    "          Print help (see a summary with '-h')",
    "",
    "  -V, --version",
    "          Print version"]

/-- Why there is nothing to play. -/
inductive LaunchError
  /-- The log could not be created. -/
  | log (e : FileError)
  /-- The image could not be read. -/
  | file (e : FileError)
  /-- The image could not be loaded. -/
  | load (e : LoadError)
  deriving DecidableEq, Repr

/-- The error with all its parts. -/
def LaunchError.details : LaunchError → String
  | log e => e.details
  | file e => "Io(" ++ e.details ++ ")"
  | load (.source reason) => "Io(" ++ reason ++ ")"
  | load (.tooLarge size) =>
    "ProgramTooLarge \x7b size: " ++ toString size ++ ", max: " ++ toString Memory.maxImageSize
      ++ " \x7d"

/-- How the program ends if there is nothing to play. -/
def LaunchError.exit (e : LaunchError) : Exit :=
  { code := 1, stderr := ["Error: " ++ e.details] }

/-- A machine ready to play, or why there is none, with the notices on the way. -/
structure Launch where
  /-- The machine. -/
  machine : Except LaunchError Machine
  /-- What there is to tell. -/
  notices : List Notice

/-- Load what was read from the path of the image into a fresh machine. -/
def launch (path : String) (seed : UInt64) (file : Except FileError (List UInt8)) : Launch :=
  match file with
  | .error e => ⟨.error (.file e), [.cannotLoad path (.source e.message)]⟩
  | .ok bytes =>
    match (Machine.fresh seed).load { bytes } with
    | .ok machine => ⟨.ok machine, [.loaded path bytes.length]⟩
    | .error e => ⟨.error (.load e), [.cannotLoad path e]⟩

/-- A message in the log: further lines are set in by four blanks. -/
def indent (message : String) : String :=
  String.ofList (message.toList.flatMap fun c =>
    if c = '\n' then ['\n', ' ', ' ', ' ', ' '] else [c])

/-- The name of a severity, set out to five letters. -/
def label (s : Severity) : String :=
  String.ofList (s.name.toList.rightpad 5 ' ')

/-- A notice as a line of the log, under the time at which it is written. -/
def logLine (time : String) (n : Notice) : String :=
  "[" ++ time ++ " " ++ label n.severity ++ " chip8] " ++ indent n.message

/-- The lines that notices leave in the log. -/
def logLines (level : LogLevel) (time : String) (notices : List Notice) : List String :=
  (notices.filter level.allows).map (logLine time)

/-- The text of lines. -/
def unlines (lines : List String) : String :=
  String.join (lines.map (· ++ "\n"))

/-! ## Getting ready -/

/-- What the player asks of the system on which it runs.  What the system does is an action in `m`,
and a log that is being written is a `Log`. -/
structure System (m : Type → Type) (Log : Type) where
  /-- Read the file at a path. -/
  read : String → m (Except FileError (List UInt8))
  /-- Create an empty log at a path, for what a level allows. -/
  createLog : String → LogLevel → m (Except FileError Log)
  /-- Write notices to a log. -/
  tell : Log → List Notice → m Unit
  /-- Come up with a seed. -/
  anySeed : m UInt64

/-- What there is when an image was loaded. -/
structure Ready (Log : Type) where
  /-- The settings of the command line. -/
  settings : Settings
  /-- The machine with the image in its memory. -/
  machine : Machine
  /-- The log. -/
  log : Log

/-- Get ready to play what a command line asks for, or else end. -/
def prepare {m : Type → Type} [Monad m] {Log : Type} (system : System m Log)
    (args : List String) : m (Except Exit (Ready Log)) := do
  match Settings.ofArgs args with
  | .error e => return .error (e.exit about)
  | .ok settings =>
    match ← system.createLog settings.logFile settings.logLevel with
    | .error e => return .error (LaunchError.log e).exit
    | .ok log =>
      let seed ← settings.seed.elim system.anySeed pure
      -- The log may be the very file that was to be loaded; it is empty by now.
      let launched := launch settings.image seed (← system.read settings.image)
      system.tell log launched.notices
      match launched.machine with
      | .error e => return .error e.exit
      | .ok machine => return .ok { settings, machine, log }

end Chip8.Player
