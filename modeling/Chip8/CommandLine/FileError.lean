/-!
# File errors

Why a file could not be read or created, as an operating system tells it.
-/

namespace Chip8

/-- Why a file could not be read or created. -/
structure FileError where
  /-- The number that the operating system gives. -/
  code : Nat
  /-- The kind of error. -/
  kind : String
  /-- The error in words. -/
  reason : String
  deriving DecidableEq, Repr

namespace FileError

/-- There is nothing at the path. -/
def notFound : FileError :=
  ⟨2, "NotFound", "No such file or directory"⟩

/-- The file may not be accessed. -/
def permissionDenied : FileError :=
  ⟨13, "PermissionDenied", "Permission denied"⟩

/-- The path leads through a file. -/
def notADirectory : FileError :=
  ⟨20, "NotADirectory", "Not a directory"⟩

/-- At the path is a directory. -/
def isADirectory : FileError :=
  ⟨21, "IsADirectory", "Is a directory"⟩

/-- The path, or a name in it, is longer than paths or names may be. -/
def nameTooLong : FileError :=
  ⟨36, "InvalidFilename", "File name too long"⟩

/-- The error as a sentence. -/
def message (e : FileError) : String :=
  e.reason ++ " (os error " ++ toString e.code ++ ")"

/-- The error with all its parts. -/
def details (e : FileError) : String :=
  "Os \x7b code: " ++ toString e.code ++ ", kind: " ++ e.kind ++ ", message: \"" ++ e.reason
    ++ "\" \x7d"

end FileError

end Chip8
