import Chip8.CommandLine.FileError
import Chip8.CommandLine.Grammar
import Chip8.Instruction.Listing

/-!
# The disassembler

Prints the listing of a program image.  An image that does not fit in memory
is listed as far as it fits, with a warning.
-/

namespace Chip8.Disassembler

/-- What the program tells about itself. -/
def about : About where
  name := "chip8-disasm"
  version := "0.1.0"
  summary := [
    "Print a CHIP-8 program image as one instruction per line, as it would sit in memory from "
      ++ "0x200. Data mixed in with code is decoded like anything else",
    "",
    "Usage: chip8-disasm <ROM>",
    "",
    "Arguments:",
    "  <ROM>  program image",
    "",
    "Options:",
    "  -h, --help     Print help",
    "  -V, --version  Print version"]

/-- The warning about an image that does not fit. -/
def warning (path : String) (size : Nat) : String :=
  "warning: " ++ path ++ " is " ++ toString size ++ " bytes, only the first "
    ++ toString Memory.maxImageSize ++ " fit in memory"

/-- How the program ends once the file at a path has been read or not. -/
def report (path : String) (file : Except FileError (List UInt8)) : Exit :=
  match file with
  | .error e => { code := 1, stderr := ["Error: " ++ e.details] }
  | .ok image =>
    { code := 0
      stdout := (Listing.ofImage image).map Listing.Entry.text
      stderr :=
        if Memory.maxImageSize < image.length then [warning path image.length] else [] }

/-- How the program ends on a command line, if `read` reads the file at a path. -/
def run {m : Type → Type} [Monad m] (read : String → m (Except FileError (List UInt8)))
    (args : List String) : m Exit := do
  match imageOfArgs args with
  | .error e => return e.exit about
  | .ok path => return report path (← read path)

end Chip8.Disassembler
