import Playstation.Pattern.Escape

/-!
# Classes between brackets

A class between brackets is made of characters, ranges of characters, classes
with a name and other classes between brackets. Two of them can be combined by
a doubled sign. A hyphen or a closing bracket which comes first is a character.
-/

namespace Playstation.Pattern

/-- A class whose closing bracket is not read yet. -/
structure OpenClass where
  /-- Its bracket and what belongs to it. -/
  opening : Span
  /-- Whether the class is the opposite of what it is made of. -/
  negative : Bool
  /-- What the rest is to be combined with. -/
  left : Option (Combination × ClassTerm)
  /-- Where the rest begins. -/
  start : Position
  /-- The items of the rest, last one first. -/
  items : List ClassTerm

namespace OpenClass

/-- Add an item. -/
def add (level : OpenClass) (item : ClassTerm) : OpenClass :=
  { level with items := item :: level.items }

/-- The rest of the class. -/
def right (level : OpenClass) : ClassTerm :=
  match level.items with
  | [] => .empty ⟨level.start, level.start⟩
  | [item] => item
  | last :: items =>
    let first := (items.getLastD last).span
    .union (last :: items).reverse ⟨first.start, last.span.stop⟩

/-- What the class is made of. -/
def body (level : OpenClass) : ClassTerm :=
  match level.left with
  | none => level.right
  | some (combination, left) =>
    .combined combination left level.right ⟨left.span.start, level.right.span.stop⟩

/-- Combine what the class is made of with what follows from a position on. -/
def combine (level : OpenClass) (combination : Combination) (start : Position) : OpenClass :=
  { level with left := some (combination, level.body), start, items := [] }

end OpenClass

/-- The character after the next one, without blanks if these do not count. The
mark of a comment is left out, but not the comment. -/
def secondAhead (spaced : Bool) (rest : List Char) : Option Char :=
  if spaced then
    match (rest.drop 1).dropWhile isWhiteSpace with
    | '#' :: rest => (rest.dropWhile isWhiteSpace).head?
    | rest => rest.head?
  else (rest.drop 1).head?

namespace Reader

/-- Take the next character as an item of a class. -/
def plainItem : Reader ClassTerm := do
  let span ← nextSpan
  let next ← peek
  advance
  return .primitive (.literal ⟨next.getD '-', false, span⟩)

/-- Take the hyphens at the start of a class whose bracket is at a position. The
last one comes first. -/
def leadingHyphens (bracket : Position) (before : List ClassTerm) :
    Nat → Reader (List ClassTerm)
  | 0 => pure before
  | count + 1 => do
    if (← peek) = some '-' then
      let item ← plainItem
      if (← peek).isNone then throw ⟨.classUnclosed, ⟨bracket, bracket⟩, none⟩
      leadingHyphens bracket (item :: before) count
    else pure before

/-- Take the start of a class between brackets. -/
def openClass : Reader OpenClass := do
  let bracket ← position
  advance
  let negative := (← peek) = some '^'
  if negative then advance
  if (← peek).isNone then fail .classUnclosed bracket
  let start ← position
  let hyphens ←
    if (← peek) = some '-' then leadingHyphens bracket [] (← get).rest.length else pure []
  let items ←
    if hyphens.isEmpty ∧ (← peek) = some ']' then do pure [← plainItem] else pure hyphens
  if (← peek).isNone then fail .classUnclosed bracket
  return ⟨← spanFrom bracket, negative, none, start, items⟩

/-- Take a class with a name between colons, if there is one. -/
def namedClass : Reader (Option ClassTerm) := do
  let start ← position
  match (← get).rest with
  | '[' :: ':' :: inside =>
    let negative := inside.head? = some '^'
    let name := (if negative then inside.drop 1 else inside).takeWhile (· ≠ ':')
    let written := "[:".toList ++ (if negative then ['^'] else []) ++ name ++ ":]".toList
    match CharacterSet.named? (String.ofList name) with
    | none => return none
    | some set =>
      if ← accept written then return some (.named set negative (← spanFrom start))
      else return none
  | _ => return none

/-- The item of a class which is no range. -/
def member (primitive : Primitive) : Reader ClassTerm :=
  match primitive with
  | .place _ span => throw ⟨.classEscape, span, none⟩
  | primitive => pure (.primitive primitive)

/-- The character which starts or ends a range. -/
def boundary (primitive : Primitive) : Reader Literal :=
  match primitive with
  | .literal written => pure written
  | primitive => throw ⟨.classRangeBoundary, primitive.span, none⟩

/-- Take a character, a class with a letter or a range of characters. -/
def classItem (opening : Span) : Reader ClassTerm := do
  let unclosed : Fault := ⟨.classUnclosed, opening, none⟩
  let first ← primitive
  gaps
  let ahead := secondAhead (← get).spaced (← get).rest
  match ← peek with
  | none => throw unclosed
  | some '-' =>
    if ahead = some ']' ∨ ahead = some '-' then member first
    else
      advance
      if (← peek).isNone then throw unclosed
      let last ← primitive
      let low ← boundary first
      let high ← boundary last
      if low.char ≤ high.char then return .range low high
      else throw ⟨.classRangeOrder, ⟨low.span.start, high.span.stop⟩, none⟩
  | some _ => member first

/-- Take the rest of a class and of those around it. What the outermost one is
made of, and whether it is the opposite, is returned. -/
def classRest : (count : Nat) → OpenClass → List OpenClass → Reader (ClassTerm × Bool)
  | 0, level, _ => return (level.body, level.negative)
  | count + 1, level, outer => do
    gaps
    match (← get).rest with
    | [] => throw ⟨.classUnclosed, level.opening, none⟩
    | '[' :: _ =>
      match ← namedClass with
      | some item => classRest count (level.add item) outer
      | none => classRest count (← openClass) (level :: outer)
    | ']' :: _ =>
      drop
      match outer with
      | [] => return (level.body, level.negative)
      | next :: outer =>
        let span ← spanFrom level.opening.start
        classRest count (next.add (.nested level.body level.negative span)) outer
    | c :: rest =>
      match Combination.ofChar? c, rest.head? == some c with
      | some combination, true =>
        drop
        drop
        classRest count (level.combine combination (← position)) outer
      | _, _ => classRest count (level.add (← classItem level.opening)) outer

/-- Take a class between brackets. -/
def bracketClass : Reader Term := do
  let start ← position
  let level ← openClass
  let (body, negative) ← classRest ((← get).rest.length + 1) level []
  return .bracket body negative (← spanFrom start)

end Reader

end Playstation.Pattern
