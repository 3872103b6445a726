import Playstation.Pattern.CharacterSet

/-!
# Patterns of text

A pattern describes pieces of text by sets of characters and by tests of the
places between characters. A text has a pattern if some piece of it is as
described.

All ways to match are followed at once. A set of places is a number whose bit
`i` stands for the place before character `i`, and a pattern takes the places
where a piece can begin to those where it can end. So the work does not grow
with the number of ways to match. The pattern is first brought into the form of
a track, which knows at which places of the text its tests pass.
-/

namespace Playstation

namespace Pattern

/-- Places by the words around them. -/
inductive Edge where
  /-- At either end of a word. -/
  | boundary
  /-- At no end of a word. -/
  | inside
  /-- At the start of a word. -/
  | start
  /-- At the end of a word. -/
  | stop
  /-- Not after a character of words. -/
  | startHalf
  /-- Not before a character of words. -/
  | stopHalf
  deriving DecidableEq

/-- Whether a place is at such an edge, by whether there is a character of words
before it and after it. -/
def Edge.holds : Edge → Bool → Bool → Bool
  | boundary, before, after => before != after
  | inside, before, after => before == after
  | start, before, after => !before && after
  | stop, before, after => before && !after
  | startHalf, before, _ => !before
  | stopHalf, _, after => !after

/-- What a place in a text can be. -/
inductive Place where
  /-- The start of the text. -/
  | textStart
  /-- The end of the text. -/
  | textEnd
  /-- The start of a line. Carriage returns may end lines too. -/
  | lineStart (carriage : Bool)
  /-- The end of a line. Carriage returns may end lines too. -/
  | lineEnd (carriage : Bool)
  /-- An edge of words, where only characters below 128 make up words. -/
  | edge (kind : Edge)
  /-- An edge of words of all scripts. It can be written, but which characters
  these have is not known, so that no place counts as one. -/
  | scriptEdge (kind : Edge)
  deriving DecidableEq

/-- Whether there is such a place between two characters. There are none at the
ends of a text. Between a carriage return and a line feed there is no line. -/
def Place.holds (before after : Option Char) : Place → Bool
  | textStart => before.isNone
  | textEnd => after.isNone
  | lineStart carriage =>
    match before with
    | none | some '\n' => true
    | some '\r' => carriage && after ≠ some '\n'
    | some _ => false
  | lineEnd carriage =>
    match after with
    | none => true
    | some '\n' => !(carriage && before = some '\r')
    | some '\r' => carriage
    | some _ => false
  | edge kind =>
    kind.holds (before.any CharacterSet.wordCharacters.has)
      (after.any CharacterSet.wordCharacters.has)
  | scriptEdge _ => false

end Pattern

/-- A pattern. -/
inductive Pattern where
  /-- Nothing. -/
  | empty
  /-- Certain characters in order. -/
  | literal (text : List Char)
  /-- One character of a set. -/
  | oneOf (set : Pattern.CharacterSet)
  /-- Nothing, but only at certain places. -/
  | place (kind : Pattern.Place)
  /-- A pattern several times, with a limit if there is one. -/
  | repeated (least : Nat) (most : Option Nat) (body : Pattern)
  /-- A pattern whose piece is remembered under a number. -/
  | captured (number : Nat) (body : Pattern)
  /-- Some patterns, one after another. -/
  | sequence (parts : List Pattern)
  /-- One of some patterns. -/
  | choice (options : List Pattern)

namespace Pattern

/-- A pattern with the places of a text where its tests pass. -/
inductive Track where
  /-- Any place. -/
  | anywhere
  /-- Over one character, from some places. -/
  | step (allowed : Nat)
  /-- Over nothing, at some places. -/
  | stay (allowed : Nat)
  /-- One track after another. -/
  | both (first second : Track)
  /-- One track or another. -/
  | either (first second : Track)
  /-- A track several times, with a limit if there is one. -/
  | again (least : Nat) (most : Option Nat) (body : Track)

/-- The places before the characters of a text that are in a set. -/
def characterPlaces (set : CharacterSet) : List Char → Nat
  | [] => 0
  | c :: rest => 2 * characterPlaces set rest + (set.has c).toNat

/-- The places of a text that pass a test, given what is before the first. -/
def testedPlaces (place : Place) (before : Option Char) : List Char → Nat
  | [] => (place.holds before none).toNat
  | c :: rest => 2 * testedPlaces place (some c) rest + (place.holds before (some c)).toNat

/-- The track of certain characters in a text. -/
def literalTrack (text : List Char) : List Char → Track
  | [] => .anywhere
  | c :: rest => .both (.step (characterPlaces (.single c) text)) (literalTrack text rest)

mutual

/-- The track of a pattern in a text. -/
def track (text : List Char) : Pattern → Track
  | empty => .anywhere
  | literal characters => literalTrack text characters
  | oneOf set => .step (characterPlaces set text)
  | place kind => .stay (testedPlaces kind none text)
  | repeated least most body => .again least most (track text body)
  | captured _ body => track text body
  | sequence parts => trackOfAll text parts
  | choice options => trackOfAny text options

/-- The track of some patterns, one after another. -/
def trackOfAll (text : List Char) : List Pattern → Track
  | [] => .anywhere
  | part :: rest => .both (track text part) (trackOfAll text rest)

/-- The track of one of some patterns. -/
def trackOfAny (text : List Char) : List Pattern → Track
  | [] => .stay 0
  | option :: rest => .either (track text option) (trackOfAny text rest)

end

/-- The places after a number of steps. -/
def after (step : Nat → Nat) : Nat → Nat → Nat
  | 0, places => places
  | steps + 1, places => if places = 0 then 0 else after step steps (step places)

/-- The places after no more than a number of steps. -/
def within (step : Nat → Nat) : Nat → Nat → Nat
  | 0, places => places
  | steps + 1, places =>
    let more := places ||| step places
    if more = places then places else within step steps more

/-- The places where pieces end that begin at some places of a text with fewer
than `count` characters. More than `count` repetitions are as good as `count`
of them, because one of these takes no character. -/
def Track.ends (count : Nat) : Track → Nat → Nat
  | anywhere, places => places
  | step allowed, places => 2 * (places &&& allowed)
  | stay allowed, places => places &&& allowed
  | both first second, places => ends count second (ends count first places)
  | either first second, places => ends count first places ||| ends count second places
  | again least most body, places =>
    let further := (most.map (· - least)).getD count
    within (ends count body) (min further count) (after (ends count body) (min least count) places)

/-- Whether a text has a piece that is as described. -/
def foundIn (pattern : Pattern) (text : String) : Bool :=
  let characters := text.toList
  let count := characters.length + 1
  (pattern.track characters).ends count ((1 <<< count) - 1) ≠ 0

end Pattern

end Playstation
