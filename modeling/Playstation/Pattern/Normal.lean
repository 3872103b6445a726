import Playstation.Pattern.Basic

/-!
# Normal patterns

Patterns are built by operations which bring them into a normal form. Literals
which stand side by side are one literal, rows and choices are not directly
inside of rows and choices, and what is common to the front of all options of a
choice stands before it. A pattern in normal form is found in the same texts.
-/

namespace Playstation.Pattern

/-- One character of a set. -/
def character (set : CharacterSet) : Pattern :=
  match set.only? with
  | some c => .literal [c]
  | none => .oneOf set

/-- Put a pattern before some others, which are in a row. -/
def prepend : Pattern → List Pattern → List Pattern
  | .empty, rest => rest
  | .literal first, .literal second :: rest => .literal (first ++ second) :: rest
  | first, rest => first :: rest

/-- The patterns of a row, each of them put before the others. -/
def flatten : List Pattern → List Pattern
  | [] => []
  | .sequence parts :: rest => parts.foldr prepend (flatten rest)
  | pattern :: rest => prepend pattern (flatten rest)

/-- Some patterns, one after another. -/
def inOrder (patterns : List Pattern) : Pattern :=
  match flatten patterns with
  | [] => .empty
  | [pattern] => pattern
  | parts => .sequence parts

mutual

/-- The least and the largest number of characters of a piece, if there is such
a number. -/
def lengths : Pattern → Option Nat × Option Nat
  | .empty | .place _ => (some 0, some 0)
  | .literal text => (some text.length, some text.length)
  | .oneOf set => if set.isEmpty then (none, none) else (some 1, some 1)
  | .captured _ body => lengths body
  | .repeated least most body =>
    let (shortest, longest) := lengths body
    (shortest.map (least * ·), do return (← most) * (← longest))
  | .sequence parts => lengthsOfAll parts
  | .choice options => lengthsOfAny options

/-- The same for some patterns, one after another. -/
def lengthsOfAll : List Pattern → Option Nat × Option Nat
  | [] => (some 0, some 0)
  | part :: rest =>
    let (shortest, longest) := lengths part
    let (restShortest, restLongest) := lengthsOfAll rest
    (do return (← shortest) + (← restShortest), do return (← longest) + (← restLongest))

/-- The same for one of some patterns. -/
def lengthsOfAny : List Pattern → Option Nat × Option Nat
  | [] => (none, none)
  | [option] => lengths option
  | option :: rest =>
    let (shortest, longest) := lengths option
    let (restShortest, restLongest) := lengthsOfAny rest
    (do return min (← shortest) (← restShortest), do return max (← longest) (← restLongest))

end

/-- A pattern several times. More than once makes no difference if its pieces
have no characters, and no times at all is nothing. -/
def times (least : Nat) (most : Option Nat) (body : Pattern) : Pattern :=
  let (least, most) :=
    if (lengths body).2 = some 0 then (min least 1, some ((most.map (min · 1)).getD 1))
    else (least, most)
  if most = some 0 then .empty
  else if least = 1 ∧ most = some 1 then body
  else .repeated least most body

/-- The options of a pattern. -/
def optionsOf : Pattern → List Pattern
  | .choice options => options
  | pattern => [pattern]

/-- The set of a pattern which is a single character. -/
def singleSet? : Pattern → Option CharacterSet
  | .literal [c] => some (.single c)
  | _ => none

/-- The set of a pattern which is one character of a set. -/
def properSet? : Pattern → Option CharacterSet
  | .oneOf set => some set
  | _ => none

/-- The parts of a pattern which is a row. -/
def partsOf : Pattern → List Pattern
  | .sequence parts => parts
  | _ => []

mutual

/-- Whether two patterns are the same. -/
def same : Pattern → Pattern → Bool
  | .empty, .empty => true
  | .literal text, .literal text' => text = text'
  | .oneOf set, .oneOf set' => set = set'
  | .place kind, .place kind' => kind = kind'
  | .repeated least most body, .repeated least' most' body' =>
    least = least' && most = most' && same body body'
  | .captured number body, .captured number' body' => number = number' && same body body'
  | .sequence parts, .sequence parts' => allSame parts parts'
  | .choice options, .choice options' => allSame options options'
  | _, _ => false

/-- Whether two lists have the same patterns. -/
def allSame : List Pattern → List Pattern → Bool
  | [], [] => true
  | first :: rest, second :: others => same first second && allSame rest others
  | _, _ => false

end

/-- What two lists have in common in front. -/
def commonFront : List Pattern → List Pattern → List Pattern
  | first :: rest, second :: others =>
    if first.same second then first :: commonFront rest others else []
  | _, _ => []

/-- The union of some sets. -/
def unionOf (sets : List CharacterSet) : CharacterSet := sets.foldl CharacterSet.union []

/-- One of some options which are no choices. The count bounds how often a
common front is taken. -/
def oneOfOptions : (count : Nat) → List Pattern → Pattern
  | _, [] => .oneOf []
  | _, [option] => option
  | 0, options => .choice options
  | count + 1, options =>
    match options.mapM singleSet?, options.mapM properSet?, options.map partsOf with
    | some sets, _, _ | none, some sets, _ => character (unionOf sets)
    | none, none, rows =>
      match rows.tail.foldl commonFront (rows.headD []) with
      | [] => .choice options
      | front =>
        let rests := rows.map fun row => inOrder (row.drop front.length)
        inOrder (front ++ [oneOfOptions count (rests.flatMap optionsOf)])

/-- One of some patterns. -/
def anyOf (patterns : List Pattern) : Pattern :=
  let options := patterns.flatMap optionsOf
  let longest := (options.map fun option => (partsOf option).length).foldl max 0
  oneOfOptions (longest + 1) options

end Playstation.Pattern
