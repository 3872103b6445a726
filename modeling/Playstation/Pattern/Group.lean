import Playstation.Pattern.Bracket

/-!
# Reading patterns

A pattern is written as alternatives, each of them a row of items: characters,
classes, places, groups and repetitions of these. A group can set flags, which
hold up to its end, and an item can set them for the rest of its group.
-/

namespace Playstation.Pattern

/-- What is read of a group. -/
structure Branch where
  /-- Where the first alternative begins. -/
  start : Position
  /-- The alternatives before the last one, last one first. -/
  earlier : List Term
  /-- Where the last alternative begins. -/
  rowStart : Position
  /-- The items of the last alternative, last one first. -/
  items : List Term

namespace Branch

/-- Nothing is read from a position on. -/
def startingAt (start : Position) : Branch := ⟨start, [], start, []⟩

/-- Append an item. -/
def add (branch : Branch) (item : Term) : Branch :=
  { branch with items := item :: branch.items }

/-- The last alternative, which ends at a position. -/
def row (branch : Branch) (stop : Position) : Term :=
  match branch.items with
  | [] => .empty ⟨branch.rowStart, stop⟩
  | [item] => item
  | items => .sequence items.reverse ⟨branch.rowStart, stop⟩

/-- What is read, up to a position. -/
def term (branch : Branch) (stop : Position) : Term :=
  match branch.earlier with
  | [] => branch.row stop
  | earlier => .choice (branch.row stop :: earlier).reverse ⟨branch.start, stop⟩

/-- Begin another alternative, after a bar. -/
def alternative (branch : Branch) (bar : Span) : Branch :=
  { branch with
    earlier := branch.row bar.start :: branch.earlier
    rowStart := bar.stop
    items := [] }

end Branch

/-- How a group begins. -/
inductive GroupStart where
  /-- It is remembered under a number. -/
  | capture (number : Nat)
  /-- It only turns flags on or off. -/
  | plain (changes : Changes)

/-- The term of a group. -/
def GroupStart.term (start : GroupStart) (body : Term) (span : Span) : Term :=
  match start with
  | capture number => .captured number body span
  | plain changes => .group changes body span

/-- A group whose end is not read yet. -/
structure OpenGroup where
  /-- Its parenthesis. -/
  opening : Span
  /-- How it begins. -/
  start : GroupStart
  /-- Whether blanks and comments do not count outside of the group. -/
  spaced : Bool
  /-- What is read of the group around it. -/
  outside : Branch

/-- Whether blanks and comments do not count after changes of flags. -/
def Changes.spaced (before : Bool) (changes : Changes) : Bool :=
  ((changes.find? fun change => change.1 = .spaced).map Prod.snd).getD before

/-- Whether there is nothing in a term which could be repeated. -/
def Term.isSetting : Term → Bool
  | .setting _ _ => true
  | _ => false

namespace Reader

/-- The largest count of a repetition. -/
def countLimit : Nat := 0xffffffff

/-- Take the number of a group which is remembered. -/
def capture : Reader GroupStart := do
  modify fun reading => { reading with captures := reading.captures + 1 }
  return .capture (← get).captures

/-- Take the name of a group. -/
def groupName : Reader Unit := do
  let start ← position
  let first ← takeUpTo drop isNameStart 1
  let further ← if first.isEmpty then pure [] else takeWhile drop isNamePart
  let span ← spanFrom start
  match ← peek with
  | none => failNext .nameUnfinished
  | some '>' =>
    drop
    let name := String.ofList (first ++ further)
    if name = "" then throw ⟨.nameEmpty, span, none⟩
    match (← get).names.lookup name with
    | some earlier => throw ⟨.nameRepeated, span, some earlier⟩
    | none => modify fun reading => { reading with names := (name, span) :: reading.names }
  | some _ => failNext .nameInvalid

/-- Take flags and hyphens, given those before, last one first. -/
def flagItems (before : List (Option Flag × Span)) : Nat → Reader (List (Option Flag × Span))
  | 0 => pure before
  | count + 1 => do
    let span ← nextSpan
    match ← peek with
    | none => throw ⟨.flagUnfinished, span, none⟩
    | some c =>
      if c = ':' ∨ c = ')' then
        match before with
        | (none, hyphen) :: _ => throw ⟨.flagDangling, hyphen, none⟩
        | _ => return before
      else if c ≠ '-' ∧ (Flag.ofChar? c).isNone then throw ⟨.flagUnknown, span, none⟩
      else
        let item := if c = '-' then none else Flag.ofChar? c
        match before.lookup item with
        | some earlier =>
          throw ⟨if item.isNone then .flagHyphenRepeated else .flagRepeated, span, some earlier⟩
        | none =>
          drop
          flagItems ((item, span) :: before) count

/-- What flags are turned to: on, but off after a hyphen. -/
def changesOf (on : Bool) : List (Option Flag) → Changes
  | [] => []
  | none :: rest => changesOf false rest
  | some flag :: rest => (flag, on) :: changesOf on rest

/-- Take the start of a group after its parenthesis, or flags which hold for the
rest of the group around them. -/
def groupStart (opening : Span) : Reader (GroupStart ⊕ Changes) := do
  gaps
  for look in ["?=", "?!", "?<=", "?<!"] do
    if ← accept look.toList then fail .lookAround opening.start
  let mark ← position
  if ← accept "?P<".toList <||> accept "?<".toList then
    let start ← capture
    groupName
    return .inl start
  else if ← accept ['?'] then
    if (← peek).isNone then throw ⟨.groupUnclosed, opening, none⟩
    let items ← flagItems [] ((← get).rest.length + 1)
    let isGroup := (← peek) = some ':'
    drop
    let changes := changesOf true (items.reverse.map Prod.fst)
    if isGroup then return .inl (.plain changes)
    else if items.isEmpty then throw ⟨.repetitionAlone, ⟨mark, mark⟩, none⟩
    else return .inr changes
  else return .inl (← capture)

/-- Take a number, or the fault of one. It counts later than a missing end. -/
def decimal : Reader (Except Fault Nat) := do
  let _ ← takeWhile drop isWhiteSpace
  let start ← position
  let digits ← takeWhile advance Char.isDigit
  let span ← spanFrom start
  let _ ← takeWhile advance isWhiteSpace
  let number := ofDigits 10 digits
  if digits.isEmpty then return .error ⟨.countEmpty, span, none⟩
  else if number ≤ countLimit then return .ok number
  else return .error ⟨.decimalInvalid, span, none⟩

/-- Take the counts of a repetition, with its opening brace at a position but
not the closing one. -/
def counts (brace : Position) : Reader (Nat × Option Nat) := do
  let continued : Reader Unit := do
    if (← peek).isNone then fail .countUnclosed brace
  advance
  continued
  let least ← decimal
  continued
  if (← peek) = some ',' then
    advance
    continued
    let least ← least
    if (← peek) = some '}' then return (least, none)
    else
      let most ← decimal
      return (least, some (← most))
  else
    let least ← least
    return (least, some least)

/-- Take a question mark, which makes a repetition lazy. -/
def laziness : Reader Unit := do
  if (← peek) = some '?' then drop

/-- Take how often an item is repeated. -/
def repetition : Reader (Nat × Option Nat) := do
  let start ← position
  match ← peek with
  | some '{' =>
    let (least, most) ← counts start
    if (← peek) ≠ some '}' then fail .countUnclosed start
    advance
    laziness
    if most.any (· < least) then fail .countOrder start
    return (least, most)
  | sign =>
    drop
    laziness
    return if sign = some '+' then (1, none) else (0, if sign = some '?' then some 1 else none)

/-- Take a character, a class with a letter or a place. -/
def single : Reader Term := do
  let span ← nextSpan
  match ← peek with
  | some '.' =>
    drop
    return .dot span
  | some '^' =>
    drop
    return .primitive (.place .lineStart span)
  | some '$' =>
    drop
    return .primitive (.place .lineEnd span)
  | _ => return .primitive (← primitive)

/-- Take the rest of a group and of those around it. -/
def groupRest : (count : Nat) → Branch → List OpenGroup → Reader Term
  | 0, branch, _ => do return branch.term (← position)
  | count + 1, branch, outer => do
    gaps
    let span ← nextSpan
    match ← peek with
    | none =>
      match outer with
      | [] => return branch.term span.start
      | group :: _ => throw ⟨.groupUnclosed, group.opening, none⟩
    | some '(' =>
      let spaced := (← get).spaced
      drop
      let started ← groupStart span
      let changes :=
        match started with
        | .inl (.capture _) => []
        | .inl (.plain changes) | .inr changes => changes
      modify fun reading => { reading with spaced := Changes.spaced spaced changes }
      match started with
      | .inl start =>
        let inside := Branch.startingAt (← position)
        groupRest count inside (⟨span, start, spaced, branch⟩ :: outer)
      | .inr changes =>
        groupRest count (branch.add (.setting changes (← spanFrom span.start))) outer
    | some ')' =>
      match outer with
      | [] => throw ⟨.groupUnopened, span, none⟩
      | group :: outer =>
        drop
        modify fun reading => { reading with spaced := group.spaced }
        let whole : Span := ⟨group.opening.start, span.stop⟩
        let item := group.start.term (branch.term span.start) whole
        groupRest count (group.outside.add item) outer
    | some '|' =>
      drop
      groupRest count (branch.alternative span) outer
    | some '[' =>
      let item ← bracketClass
      groupRest count (branch.add item) outer
    | some c =>
      if c = '*' ∨ c = '+' ∨ c = '?' ∨ c = '{' then
        match branch.items with
        | [] => fail .repetitionAlone span.start
        | item :: items =>
          if item.isSetting then fail .repetitionAlone span.start
          let (least, most) ← repetition
          let whole : Span := ⟨item.span.start, ← position⟩
          let branch := { branch with items := .repeated least most item whole :: items }
          groupRest count branch outer
      else
        let item ← single
        groupRest count (branch.add item) outer

/-- Take a pattern up to the end of its text. -/
def pattern : Reader Term := do
  groupRest ((← get).rest.length + 1) (.startingAt (← position)) []

end Reader

/-- The term written in a text, or what is wrong with it. -/
def Term.parse (text : String) : Except Fault Term :=
  (Reader.pattern.run ⟨text.toList, ⟨1, 1⟩, false, [], 0⟩).map Prod.fst

end Playstation.Pattern
