/-!
# Usage

Why a command line is not followed, and what is printed then.  Asking for help
or for the version counts as such a reason, but as no failure.
-/

namespace Chip8

/-- Why a command line is not followed. -/
inductive UsageError
  /-- It asks for help: for all of it, or for a summary. -/
  | displayHelp (full : Bool)
  /-- It asks for the version. -/
  | displayVersion
  /-- A value is missing, empty or none of those allowed. -/
  | invalidValue
  /-- A value could not be read, or is out of range. -/
  | valueValidation
  /-- An argument is not known, or is one too many. -/
  | unknownArgument
  /-- An option is given twice. -/
  | argumentConflict
  /-- A flag is given a value. -/
  | tooManyValues
  /-- The program image is not given. -/
  | missingRequiredArgument
  deriving DecidableEq, Repr

/-- The error in words. -/
def UsageError.message : UsageError → String
  | displayHelp _ => "help was asked for"
  | displayVersion => "the version was asked for"
  | invalidValue => "a value is missing or is none of those allowed"
  | valueValidation => "a value could not be read or is out of range"
  | unknownArgument => "unexpected argument found"
  | argumentConflict => "an option cannot be used multiple times"
  | tooManyValues => "a flag takes no value"
  | missingRequiredArgument => "the program image is not given"

/-- How a program ends. -/
structure Exit where
  /-- The exit code. -/
  code : Nat
  /-- The lines printed. -/
  stdout : List String := []
  /-- The lines printed as errors. -/
  stderr : List String := []
  deriving DecidableEq, Repr

/-- What a program tells about itself. -/
structure About where
  /-- Its name. -/
  name : String
  /-- Its version. -/
  version : String
  /-- The lines of a summary of its help. -/
  summary : List String
  /-- The lines of all its help. -/
  help : List String := summary

/-- How a program ends that does not follow its command line. -/
def UsageError.exit (e : UsageError) (about : About) : Exit :=
  match e with
  | displayHelp full => { code := 0, stdout := if full then about.help else about.summary }
  | displayVersion => { code := 0, stdout := [about.name ++ " " ++ about.version] }
  | e => { code := 2, stderr := ["error: " ++ e.message] }

end Chip8
