import Playstation.Settings
import Playstation.Toml.Document

/-!
# Settings from a document

A reader of settings for the program to be run with. The settings stand at the top
of a document under their names, and names which are no settings are ignored. What
is shown of sessions holds for every reader and not only for this one.
-/

namespace Playstation.Toml.Document

/-- The report of a name without a single value of the right kind. -/
def misuse (name : String) : String := s!"no valid value for '{name}'"

/-- The text which a document gives to a setting. -/
def textOf (document : Document) (name : String) : Except String (Option String) :=
  match document.valueOf? name with
  | some none => .ok none
  | some (some (.string text)) => .ok (some text)
  | _ => .error (misuse name)

/-- The number which a document gives to a setting. It is not negative. -/
def countOf (document : Document) (name : String) : Except String (Option Nat) :=
  match document.valueOf? name with
  | some none => .ok none
  | some (some (.integer (.ofNat count))) => .ok (some count)
  | _ => .error (misuse name)

/-- The settings in a document. -/
def settings (document : Document) : Except String Settings := do
  let bios ← document.textOf "bios"
  let steps ← document.countOf "steps"
  let log ← document.textOf "log"
  return { bios, steps, log }

/-- The settings in a text, or what is wrong with it. -/
def settingsOfText (text : String) : Except String Settings :=
  match ofText? text with
  | some document => document.settings
  | none => .error "not a TOML document"

end Playstation.Toml.Document
