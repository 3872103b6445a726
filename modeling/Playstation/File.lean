/-!
# Files and paths

What the program needs to know about files: how they are read, why one cannot
be read, and what a path calls it. A fault carries the number and the words by
which the system reports it.
-/

namespace Playstation

/-- Why a file cannot be read. -/
inductive FileFault where
  /-- Some part of the path does not exist. -/
  | notFound
  /-- The path names a directory. -/
  | isDirectory
  /-- A part of the path that is not the last names a file. -/
  | notDirectory
  /-- The contents are no text. -/
  | invalidText
  /-- The path has a character which no path can have. -/
  | invalidPath
  /-- A part of the path, or all of it, is too long. -/
  | nameTooLong
  /-- Any other report of the system. -/
  | other (report : String)
  deriving DecidableEq

/-- The text of a fault. -/
def FileFault.message : FileFault → String
  | notFound => "No such file or directory (os error 2)"
  | isDirectory => "Is a directory (os error 21)"
  | notDirectory => "Not a directory (os error 20)"
  | invalidText => "stream did not contain valid UTF-8"
  | invalidPath => "file name contained an unexpected NUL byte"
  | nameTooLong => "File name too long (os error 36)"
  | other report => report

/-- The files that a program can reach, where reading is an effect. -/
structure FileSystem (m : Type → Type) where
  /-- The contents of the file at a path. -/
  read : String → m (Except FileFault ByteArray)
  /-- Whether there is anything at a path. -/
  holds : String → m Bool

namespace Path

/-- Whether a path can be given to the system. -/
def isValid (path : String) : Bool := path.toList.all fun c => c.toNat ≠ 0

/-- How many bytes a path can have. -/
def maxBytes : Nat := 4095

/-- How many bytes a part of a path can have. -/
def maxPartBytes : Nat := 255

/-- The parts of a path between slashes, without empty parts and without dots
that stay where they are. A leading dot counts as a part. -/
def components (path : String) : List String :=
  let parts := path.splitOn "/"
  let kept := (parts.drop 1).filter fun part => part ≠ "" ∧ part ≠ "."
  match parts.head? with
  | some first => if first = "" then kept else first :: kept
  | none => kept

/-- The name of the file at a path: its last part, unless that part leads
upwards or is missing, in which case the whole path is the name. -/
def fileName (path : String) : String :=
  match (components path).getLast? with
  | some part => if part = ".." ∨ part = "." then path else part
  | none => path

end Path

end Playstation
