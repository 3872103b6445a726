import Playstation.Pattern.Group
import Playstation.Pattern.Meaning
import Playstation.Pattern.Nesting
import Playstation.Pattern.Size

/-!
# Patterns from text

A text is a pattern if it can be read, is not too deep, has a meaning, and can
be matched: its automata are not too large, and it asks for no edges of words
of all scripts. The reasons against it are looked for in this order, where the
size of the second automaton comes last.
-/

namespace Playstation.Pattern

/-- Why a text is no pattern. -/
inductive Refusal where
  /-- There is a fault in the text. -/
  | faulty (fault : Fault)
  /-- An automaton is too large. -/
  | tooLarge
  /-- Places are asked for which cannot be found. -/
  | unknownPlaces
  deriving DecidableEq

/-- The wording of a refusal of a text. -/
def Refusal.message (text : String) : Refusal → String
  | faulty fault => fault.report text
  | tooLarge => s!"Compiled regex exceeds size limit of {sizeLimit} bytes."
  | unknownPlaces => "error building NFA"

mutual

/-- Whether a pattern asks for edges of words of all scripts. -/
def asksForScripts : Pattern → Bool
  | .place (.scriptEdge _) => true
  | .empty | .literal _ | .oneOf _ | .place _ => false
  | .repeated _ _ body | .captured _ body => asksForScripts body
  | .sequence parts | .choice parts => anyAsksForScripts parts

/-- Whether some of several patterns ask for edges of words of all scripts. -/
def anyAsksForScripts : List Pattern → Bool
  | [] => false
  | pattern :: rest => asksForScripts pattern || anyAsksForScripts rest

end

/-- A pattern, if it can be matched. -/
def check (pattern : Pattern) : Except Refusal Pattern :=
  if pattern.isTooLarge false then .error .tooLarge
  else if pattern.asksForScripts then .error .unknownPlaces
  else if pattern.isTooLarge true then .error .tooLarge
  else .ok pattern

/-- The meaning of a term, if the term is not too deep. -/
def Term.pattern (term : Term) : Except Fault Pattern := do
  term.checkDepth
  return (← term.meaning.run .standard).1

/-- The pattern written in a text, or why it is none. -/
def parse (text : String) : Except Refusal Pattern := do
  let term ← (Term.parse text).mapError .faulty
  check (← term.pattern.mapError .faulty)

end Playstation.Pattern
