import Playstation.Hex
import Playstation.Log.Blank
import Playstation.Pattern.Term

/-!
# Readers of patterns

A reader takes characters from the front of the text of a pattern, or finds a
fault. It knows whether blanks and comments count.
-/

namespace Playstation.Pattern

/-- How far the text of a pattern is read. -/
structure Reading where
  /-- The characters left. -/
  rest : List Char
  /-- The position of the first of them. -/
  position : Position
  /-- Whether blanks and comments do not count. -/
  spaced : Bool
  /-- The names of groups. -/
  names : List (String × Span)
  /-- How many groups are remembered. -/
  captures : Nat

/-- What is read from the front of the text of a pattern. -/
abbrev Reader : Type → Type := StateT Reading (Except Fault)

/-- What is left after blanks and comments, and its position. -/
def afterGaps (inComment : Bool) (position : Position) : List Char → List Char × Position
  | [] => ([], position)
  | c :: rest =>
    if inComment then afterGaps (c ≠ '\n') (position.after c) rest
    else if isWhiteSpace c then afterGaps false (position.after c) rest
    else if c = '#' then afterGaps true (position.after c) rest
    else (c :: rest, position)

namespace Reader

/-- The next character, if there is one. -/
def peek : Reader (Option Char) := do return (← get).rest.head?

/-- The position of the next character. -/
def position : Reader Position := do return (← get).position

/-- Where the next character is. -/
def nextSpan : Reader Span := do
  let position ← position
  return ⟨position, ((← peek).map position.after).getD position⟩

/-- What is written between a position and the next character. -/
def spanFrom (start : Position) : Reader Span := do return ⟨start, ← position⟩

/-- End with a mistake between a position and the next character. -/
def fail {α : Type} (mistake : Mistake) (start : Position) : Reader α := do
  throw ⟨mistake, ← spanFrom start, none⟩

/-- End with a mistake at the next character. -/
def failNext {α : Type} (mistake : Mistake) : Reader α := do
  throw ⟨mistake, ← nextSpan, none⟩

/-- Take the next character. -/
def drop : Reader Unit :=
  modify fun reading =>
    match reading.rest with
    | [] => reading
    | c :: rest => { reading with rest, position := reading.position.after c }

/-- Leave out blanks and comments if they do not count. -/
def gaps : Reader Unit :=
  modify fun reading =>
    if reading.spaced then
      let (rest, position) := afterGaps false reading.position reading.rest
      { reading with rest, position }
    else reading

/-- Take the next character and what does not count after it. -/
def advance : Reader Unit := do
  drop
  gaps

/-- Take some text if it is next. -/
def accept (text : List Char) : Reader Bool := do
  if text.isPrefixOf (← get).rest then
    text.forM fun _ => drop
    return true
  else return false

/-- Take characters while they pass a test, no more than a number of them, each
by a reader. -/
def takeUpTo (take : Reader Unit) (test : Char → Bool) : Nat → Reader (List Char)
  | 0 => pure []
  | count + 1 => do
    match ← peek with
    | none => pure []
    | some c =>
      if test c then
        take
        return c :: (← takeUpTo take test count)
      else pure []

/-- Take characters while they pass a test, each by a reader. -/
def takeWhile (take : Reader Unit) (test : Char → Bool) : Reader (List Char) := do
  takeUpTo take test (← get).rest.length

end Reader

end Playstation.Pattern
