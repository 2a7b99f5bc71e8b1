import Chip8.CommandLine.Disassembler
import Chip8.CommandLine.Player
import Chip8.Keyboard.Basic
import Chip8.Screen.Terminal
import Chip8.Session.Run
import Std.Time.Format

/-!
# The programs

The outer layer: reading files, the clock and the keyboard, printing, and
writing the log.  Under a name that ends in `disasm` the program is the
disassembler, under any other the player.

The player expects a terminal that passes on every key as it is typed,
and stops at escape or control-c, or when its input ends.
-/

namespace Chip8.Main

/-! ## Files -/

/-- The reason for which a file could not be accessed. -/
def fileError : IO.Error → FileError
  | .noFileOrDirectory .. => .notFound
  | .permissionDenied .. => .permissionDenied
  | .inappropriateType _ code _ =>
    -- Some calls give the number of an error negated.
    if code = 20 ∨ 0 - code = 20 then .notADirectory else .isADirectory
  | .invalidArgument .. => .nameTooLong
  | e => ⟨5, "Uncategorized", toString e⟩

/-- The result of an action on files. -/
def attempt {α : Type} (action : IO α) : IO (Except FileError α) := do
  match ← action.toBaseIO with
  | .ok a => return .ok a
  | .error e => return .error (fileError e)

/-- The bytes of a file. -/
def readFile (path : String) : IO (Except FileError (List UInt8)) :=
  attempt do
    let bytes ← IO.FS.readBinFile path
    return bytes.toList

/-- Print what a program prints at its end, and give its exit code. -/
def finish (exit : Exit) : IO UInt32 := do
  for line in exit.stdout do
    IO.println line
  for line in exit.stderr do
    IO.eprintln line
  return UInt32.ofNat exit.code

/-! ## The log -/

/-- A log that is being written. -/
structure Log where
  /-- The file. -/
  handle : IO.FS.Handle
  /-- What is written to it. -/
  level : LogLevel

/-- The time, to the second. -/
def timeText : IO String := do
  let now ← Std.Time.Timestamp.now
  return (Std.Time.DateTime.ofTimestampWithZone now Std.Time.TimeZone.UTC).format
    "uuuu-MM-dd'T'HH:mm:ss'Z'"

/-- Write notices to the log, each with a text added to it. -/
def Log.write (log : Log) (notices : List Notice) (added : String := "") : IO Unit := do
  let lines := Player.logLines log.level (← timeText) notices
  -- What cannot be written is lost.
  let _ ← attempt do
    log.handle.putStr (Player.unlines (lines.map (· ++ added)))
    log.handle.flush

/-! ## The keyboard -/

/-- The keyboard and what it has sent. -/
structure Desk where
  /-- The keyboard. -/
  keyboard : Keyboard
  /-- The channel to the session. -/
  channel : Channel
  /-- What there is to tell. -/
  notices : List Notice := []

/-- What a byte from the terminal means. -/
def hostEvent (b : UInt8) : HostEvent :=
  if b = 0x1B then .key .escape {} .press
  else if b = 0x03 then .key (.char 'c') { control := true } .press
  else .key (.char (Char.ofNat b.toNat)) {} .press

/-- The desk after a host event. -/
def Desk.receive (d : Desk) (event : HostEvent) (now : Nat) : Desk :=
  let r := d.keyboard.receive event now
  { keyboard := r.keyboard
    channel := d.channel.acceptAll (r.event.toList.map .event)
    notices := d.notices ++ r.notices }

/-- The desk after the holds that are over have ended. -/
def Desk.expire (d : Desk) (now : Nat) : Desk :=
  let (keyboard, events) := d.keyboard.expire now
  { d with keyboard, channel := d.channel.acceptAll (events.map .event) }

/-- Take in what is typed until the input ends. -/
partial def listen (input : IO.FS.Stream) (desk : IO.Ref Desk) : IO Unit := do
  let bytes ← input.read 1
  if bytes.isEmpty then
    desk.modify fun d => { d with channel := d.channel.accept .disconnect }
  else
    let now ← IO.monoMsNow
    desk.modify fun d => bytes.toList.foldl (fun d b => d.receive (hostEvent b) now) d
    listen input desk

/-! ## The session -/

/-- A cell in the colours of the terminal. -/
def cellText : Cell → String
  | .blank => " "
  | .text c => String.singleton c
  | .pixel .white => "\x1b[97;40m\u2584\x1b[0m"
  | .pixel .black => "\x1b[30;40m\u2584\x1b[0m"

/-- The whole screen, painted from the top left corner. -/
def screenText (screen : List (List Cell)) : String :=
  "\x1b[H" ++ String.intercalate "\r\n" (screen.map fun row => String.join (row.map cellText))

/-- The time that a session took, in seconds with one decimal. -/
def elapsedText (nanoseconds : Nat) : String :=
  let tenths := (nanoseconds + 50000000) / 100000000
  toString (tenths / 10) ++ "." ++ toString (tenths % 10)

/-- Play until the session ends. -/
partial def play (desk : IO.Ref Desk) (log : Log) (session : Session Terminal)
    (pacer : Pacer) (ticks : Nat) : IO (Ending × Nat) := do
  let now ← IO.monoNanosNow
  let (channel, heard) ← desk.modifyGet fun d =>
    let d := d.expire (now / 1000000)
    ((d.channel, d.notices), { d with channel := { d.channel with queue := [] }, notices := [] })
  log.write heard
  let (due, pacer) := pacer.poll now
  let passed := session.pass channel due
  log.write passed.notices
  let ticks := ticks + passed.ticks
  match passed.ending with
  | some ending => return (ending, ticks)
  | none =>
    let output ← IO.getStdout
    if passed.session.display.screen ≠ session.display.screen then
      output.putStr (screenText passed.session.display.screen)
      output.flush
    let next := pacer.deadline
    let now ← IO.monoNanosNow
    if now < next then IO.sleep (UInt32.ofNat ((next - now) / 1000000))
    play desk log passed.session pacer ticks

/-- Play on the terminal. -/
def playOnTerminal (ready : Player.Ready Log) : IO UInt32 := do
  let { settings, machine, log } := ready
  let output ← IO.getStdout
  output.putStr "\x1b[2J"
  let desk ← IO.mkRef ({
    keyboard := Keyboard.ofKeymap settings.layout.keymap settings.holdTime.toNat
    channel := {} } : Desk)
  let input ← IO.getStdin
  let _ ← IO.asTask (listen input desk) .dedicated
  let start ← IO.monoNanosNow
  log.write [.running settings.rates.speed.toNat settings.rates.timer.toNat]
  let session : Session Terminal :=
    { machine, display := Terminal.ofSize Sprite.frameWidth Sprite.frameHeight }
  let (ending, ticks) ← play desk log session (Pacer.start settings.rates start) 0
  let elapsed := elapsedText ((← IO.monoNanosNow) - start)
  log.write (ending.closing ticks) (" in " ++ elapsed ++ "s")
  output.putStrLn "\x1b[0m"
  match ending with
  | .failed e => finish { code := 1, stderr := ["Error: " ++ e.message] }
  | .stopped | .unfinished => return 0

/-! ## The two programs -/

/-- Run the disassembler. -/
def disassemble (args : List String) : IO UInt32 := do
  finish (← Disassembler.run readFile args)

/-- The system on which the program runs. -/
def system : Player.System IO Log where
  read := readFile
  createLog path level := attempt do
    return ⟨← IO.FS.Handle.mk path .write, level⟩
  tell log notices := log.write notices
  anySeed := return UInt64.ofNat (← IO.rand 0 (UInt64.size - 1))

/-- Run the player. -/
def playImage (args : List String) : IO UInt32 := do
  match ← Player.prepare system args with
  | .error exit => finish exit
  | .ok ready => playOnTerminal ready

end Chip8.Main

/-- Run the program that the name of the executable stands for. -/
def main (args : List String) : IO UInt32 := do
  let path ← IO.appPath
  if path.toString.endsWith "disasm" then Chip8.Main.disassemble args
  else Chip8.Main.playImage args
