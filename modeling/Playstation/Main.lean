import Playstation.Log.Line
import Playstation.Session
import Playstation.Toml.Settings

/-!
# The command line

Runs a session on the real files and the real environment. All decisions are
those of the session; here it only meets its effects, a reader of settings and
a log.
-/

namespace Playstation.CommandLine

/-- The fault which an error of the system is. -/
def faultOf : IO.Error → FileFault
  | .noFileOrDirectory .. => .notFound
  | .inappropriateType _ 21 _ => .isDirectory
  | .inappropriateType .. => .notDirectory
  | .invalidArgument _ _ "name too long" => .nameTooLong
  | .permissionDenied .. => .other "Permission denied (os error 13)"
  | error => .other error.toString

/-- The contents of a file. -/
def read (path : String) : IO (Except FileFault ByteArray) := do
  if Path.isValid path then
    try return .ok (← IO.FS.readBinFile path) catch error => return .error (faultOf error)
  else return .error .invalidPath

/-- Whether there is anything at a path. -/
def holds (path : String) : IO Bool := do
  match ← read path with
  | .error .notFound | .error .notDirectory | .error .invalidPath | .error .nameTooLong =>
    return false
  | _ => return true

/-- Where the user usually keeps settings. -/
def settingsPath : IO (Option String) := do
  match ← IO.getEnv "XDG_CONFIG_HOME", ← IO.getEnv "HOME" with
  | some directory, home =>
    if directory.startsWith "/" then return some (directory ++ "/config.toml")
    else return home.map (· ++ "/.config/config.toml")
  | none, home => return home.map (· ++ "/.config/config.toml")

instance : MonadRepeat IO where
  repeatUntil := repeatM
  repeatUntil_eq body state := by
    rw [repeatM_eq_of_monadTail, repeatM.body]
    refine bind_congr fun next => ?_
    cases next <;> rfl

/-- How many instructions are run at a time if their number is not limited. -/
def chunk : Nat := 1000000

/-- Run the program with its arguments. -/
def run (arguments : List String) : IO Ending := do
  let environment ← IO.getEnv "RUST_LOG"
  let host : Host IO := {
    files := ⟨read, holds⟩
    parseSettings := Toml.Document.settingsOfText
    settingsPath := ← settingsPath
    write := IO.eprint
    openLog := Playstation.openLog IO.eprint environment
  }
  Session.run host (Session.runUntilFault chunk) arguments

end Playstation.CommandLine

/-- The program. -/
def main (arguments : List String) : IO UInt32 := do
  return (← Playstation.CommandLine.run arguments).code.toUInt32
