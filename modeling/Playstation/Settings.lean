import Playstation.File

/-!
# Settings

What a settings file can say: where the boot ROM is, how many instructions to
run, and which messages to log. Each of them may be missing. How a text says it
is left open: whoever loads settings brings a reader, which takes a text to
settings or to a report of what is wrong with it.
-/

namespace Playstation

/-- What the user has settled. -/
structure Settings where
  /-- The path of the boot ROM. -/
  bios : Option String := none
  /-- How many instructions to run. Without a number they run until a host
  fault. -/
  steps : Option Nat := none
  /-- The text of a log filter. -/
  log : Option String := none
  deriving DecidableEq

/-- Why there are no settings. -/
inductive SettingsFault where
  /-- It is not known where the user keeps settings. -/
  | noDirectory
  /-- The file could not be read. -/
  | unreadable (path : String) (fault : FileFault)
  /-- The text of the file does not say any, as the reader reports. -/
  | malformed (report : String)
  deriving DecidableEq

/-- The text of a fault. -/
def SettingsFault.message : SettingsFault → String
  | noDirectory => "failed to find config directory"
  | unreadable path fault => s!"failed to open config file '{path}': {fault.message}"
  | malformed report => s!"failed to load config file: {report}"

namespace Settings

/-- The settings at a path, given what reading the file there gave. -/
def ofFile (parse : String → Except String Settings) (path : String)
    (contents : Except FileFault ByteArray) : Except SettingsFault Settings :=
  match contents with
  | .error fault => .error (.unreadable path fault)
  | .ok data =>
    match String.fromUTF8? data with
    | none => .error (.unreadable path .invalidText)
    | some text => (parse text).mapError .malformed

/-- Load the settings at a path, or else those at the user's usual path, where
a missing file means that nothing is settled. -/
def load {m : Type → Type} [Monad m] (files : FileSystem m)
    (parse : String → Except String Settings) (given usual : Option String) :
    m (Except SettingsFault Settings) := do
  match given, usual with
  | some path, _ => return ofFile parse path (← files.read path)
  | none, some path =>
    if ← files.holds path then return ofFile parse path (← files.read path) else return .ok {}
  | none, none => return .error .noDirectory

end Settings

end Playstation
