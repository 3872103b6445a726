/-!
# Levels and logs

Messages have one of five levels. A message is kept by a limit if it is at
least as severe as the limit; no limit at all keeps nothing. What a log does with
messages is left open: it is asked which of them it wants, and given these.
-/

namespace Playstation

/-- How severe a log message is, most severe first. -/
inductive Level where
  /-- The program cannot go on. -/
  | error
  /-- Something unexpected. -/
  | warn
  /-- Progress. -/
  | info
  /-- Larger operations of devices. -/
  | debug
  /-- Every small thing. -/
  | trace
  deriving DecidableEq, Repr

namespace Level

/-- The levels in order of severity. -/
def all : List Level := [error, warn, info, debug, trace]

/-- Place in the order of severity. -/
def rank : Level → Nat
  | error => 0
  | warn => 1
  | info => 2
  | debug => 3
  | trace => 4

/-- The name of a level. -/
def name : Level → String
  | error => "ERROR"
  | warn => "WARN"
  | info => "INFO"
  | debug => "DEBUG"
  | trace => "TRACE"

/-- Whether a limit keeps messages of a level. -/
def keptBy (level : Level) (limit : Option Level) : Bool :=
  match limit with
  | some limit => level.rank ≤ limit.rank
  | none => false

/-- The limit with a name, in any mix of cases: a level, or `off` for no limit
at all. -/
def limitOfName? (name : String) : Option (Option Level) :=
  let name := name.map Char.toUpper
  if name = "OFF" then some none
  else (all.find? fun level => level.name = name).map some

/-- The name of a level with blanks up to the length of the longest name. -/
def label (level : Level) : String := level.name ++ "".pushn ' ' (5 - level.name.length)

end Level

/-- A log that has been opened. -/
structure Logger (m : Type → Type) where
  /-- Whether messages of a level from a target are wanted. -/
  wants : Level → (target : String) → Bool
  /-- Write a message of a level from a target. -/
  write : Level → (target text : String) → m Unit

end Playstation
