import Playstation.Log.Filter
import Playstation.Log.Terminal

/-!
# A log in lines

A log for the program to be run with. It has a filter, and a message is written after
its level and its origin. All levels take the same space, and the further lines of a
message are indented. What would steer a terminal is left out. What is shown of
sessions holds for every log and not only for this one.
-/

namespace Playstation

/-- What the log has for a message, up to the end of its last line. -/
def logRecord (level : Level) (target text : String) : String :=
  visible ("[" ++ level.label ++ " " ++ target ++ "] " ++ text.replace "\n" "\n    " ++ "\n")

/-- Open the log with the filter which the environment asks for, or else with the
one that is given. The parts of it which are no directives are complained about. -/
@[inline] def openLog {m : Type → Type} [Monad m] (write : String → m Unit)
    (environment : Option String) (given : String) : m (Logger m) := do
  let (filter, complaints) := Filter.parse (environment.getD given)
  complaints.forM fun complaint => write s!"warning: {complaint}, ignoring it\n"
  return {
    wants := filter.keeps
    write := fun level target text =>
      if filter.finds text then write (logRecord level target text) else pure () }

end Playstation
