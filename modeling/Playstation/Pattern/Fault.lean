/-!
# Faults of patterns

A fault says what is wrong with the text of a pattern and where. Its report
shows the pattern with the place marked underneath. Lines are numbered if the
pattern has more than one.
-/

namespace Playstation.Pattern

/-- A position in the text of a pattern, counted from one. -/
structure Position where
  /-- The line. -/
  line : Nat
  /-- The character of the line. -/
  column : Nat
  deriving DecidableEq

/-- The position after a character. -/
def Position.after (position : Position) (c : Char) : Position :=
  if c = '\n' then ⟨position.line + 1, 1⟩ else ⟨position.line, position.column + 1⟩

/-- A piece of the text of a pattern. -/
structure Span where
  /-- Where it begins. -/
  start : Position
  /-- The position after it. -/
  stop : Position
  deriving DecidableEq

/-- What can be wrong with the text of a pattern. -/
inductive Mistake where
  /-- A class is not closed. -/
  | classUnclosed
  /-- What is escaped in a class is no character. -/
  | classEscape
  /-- A range of characters ends before it starts. -/
  | classRangeOrder
  /-- A range of characters starts or ends with none. -/
  | classRangeBoundary
  /-- A number is too large. -/
  | decimalInvalid
  /-- A character code has no digits. -/
  | hexEmpty
  /-- A character code is that of no character. -/
  | hexInvalid
  /-- A character code has something else than a digit. -/
  | hexDigit
  /-- An escape goes beyond the end. -/
  | escapeUnfinished
  /-- An escape is unknown. -/
  | escapeUnknown
  /-- Nothing follows the hyphen between flags. -/
  | flagDangling
  /-- A flag is repeated. -/
  | flagRepeated
  /-- The hyphen between flags is repeated. -/
  | flagHyphenRepeated
  /-- The flags go beyond the end. -/
  | flagUnfinished
  /-- A flag is unknown. -/
  | flagUnknown
  /-- Two groups have the same name. -/
  | nameRepeated
  /-- The name of a group is empty. -/
  | nameEmpty
  /-- The name of a group has a character of no name. -/
  | nameInvalid
  /-- The name of a group goes beyond the end. -/
  | nameUnfinished
  /-- A group is not closed. -/
  | groupUnclosed
  /-- A group is not opened. -/
  | groupUnopened
  /-- A count ends before it starts. -/
  | countOrder
  /-- A count has no number where it needs one. -/
  | countEmpty
  /-- A count is not closed. -/
  | countUnclosed
  /-- There is nothing to repeat. -/
  | repetitionAlone
  /-- The braces of an edge of words are not closed. -/
  | edgeUnclosed
  /-- An edge of words is unknown. -/
  | edgeUnknown
  /-- An edge of words goes beyond the end, or a count does. -/
  | edgeUnfinished
  /-- A property has no possible name. -/
  | propertyInvalid
  /-- A property is unknown. -/
  | propertyUnknown
  /-- A kind of characters is unknown. -/
  | kindUnknown
  /-- The characters of a letter's class are only known below 128. -/
  | letterClassUnknown
  /-- The other cases of letters are only known below 128. -/
  | caseUnknown
  /-- Groups and classes are too deep inside of each other. -/
  | tooDeep (limit : Nat)
  /-- An earlier group is meant. -/
  | groupReference
  /-- A look to either side. -/
  | lookAround
  /-- Characters from 128 on have no place here. -/
  | unicode
  /-- Parts of characters could match. -/
  | bytes
  deriving DecidableEq

/-- The wording of a mistake. -/
def Mistake.message : Mistake → String
  | classUnclosed => "unclosed character class"
  | classEscape => "invalid escape sequence found in character class"
  | classRangeOrder => "invalid character class range, the start must be <= the end"
  | classRangeBoundary => "invalid range boundary, must be a literal"
  | decimalInvalid => "decimal literal invalid"
  | hexEmpty => "hexadecimal literal empty"
  | hexInvalid => "hexadecimal literal is not a Unicode scalar value"
  | hexDigit => "invalid hexadecimal digit"
  | escapeUnfinished => "incomplete escape sequence, reached end of pattern prematurely"
  | escapeUnknown => "unrecognized escape sequence"
  | flagDangling => "dangling flag negation operator"
  | flagRepeated => "duplicate flag"
  | flagHyphenRepeated => "flag negation operator repeated"
  | flagUnfinished => "expected flag but got end of regex"
  | flagUnknown => "unrecognized flag"
  | nameRepeated => "duplicate capture group name"
  | nameEmpty => "empty capture group name"
  | nameInvalid => "invalid capture group character"
  | nameUnfinished => "unclosed capture group name"
  | groupUnclosed => "unclosed group"
  | groupUnopened => "unopened group"
  | countOrder => "invalid repetition count range, the start must be <= the end"
  | countEmpty => "repetition quantifier expects a valid decimal"
  | countUnclosed => "unclosed counted repetition"
  | repetitionAlone => "repetition operator missing expression"
  | edgeUnclosed =>
    "special word boundary assertion is either unclosed or contains an invalid character"
  | edgeUnknown =>
    "unrecognized special word boundary assertion, valid choices are: " ++
      "start, end, start-half or end-half"
  | edgeUnfinished =>
    "found either the beginning of a special word boundary or a bounded repetition on a \\b " ++
      "with an opening brace, but no closing brace"
  | propertyInvalid => "invalid Unicode character class"
  | propertyUnknown => "Unicode property not found"
  | kindUnknown => "Unicode property value not found"
  | letterClassUnknown =>
    "Unicode-aware Perl class not found (make sure the unicode-perl feature is enabled)"
  | caseUnknown =>
    "Unicode-aware case insensitivity matching is not available " ++
      "(make sure the unicode-case feature is enabled)"
  | tooDeep limit => s!"exceed the maximum number of nested parentheses/brackets ({limit})"
  | groupReference => "backreferences are not supported"
  | lookAround => "look-around, including look-ahead and look-behind, is not supported"
  | unicode => "Unicode not allowed here"
  | bytes => "pattern can match invalid UTF-8"

/-- What is wrong with the text of a pattern, and where. -/
structure Fault where
  /-- What is wrong. -/
  mistake : Mistake
  /-- Where. -/
  span : Span
  /-- An earlier piece of the text which does not go with it. -/
  earlier : Option Span
  deriving DecidableEq

namespace Fault

/-- The lines of the text of a pattern, without the ends of the lines. A line
feed at the end has no line after it. -/
def patternLines : List String → List String
  | [] | [""] => []
  | [last] => [last]
  | line :: rest =>
    (if line.endsWith "\r" then (line.dropEnd 1).copy else line) :: patternLines rest

/-- A line of marks under some pieces of a line. -/
def marks (spans : List Span) : String :=
  spans.foldl
    (fun marked span =>
      marked.pushn ' ' (span.start.column - 1 - marked.length)
        |>.pushn '^' (max 1 (span.stop.column - span.start.column))) ""

/-- Lines with their numbers, if these take any space, and with marks. -/
def annotated (width : Nat) (spans : List Span) (lines : List String) : List String :=
  lines.zipIdx.flatMap fun (line, index) =>
    let number := toString (index + 1)
    let gap := "".pushn ' ' (if width = 0 then 4 else width + 2)
    let label := if width = 0 then gap else "".pushn ' ' (width - number.length) ++ number ++ ": "
    let marked := spans.filter fun span => span.start.line = index + 1
    (label ++ line) :: (if marked.isEmpty then [] else [gap ++ marks marked])

/-- How a piece of more than one line is told. -/
def extent (span : Span) : String :=
  s!"on line {span.start.line} (column {span.start.column}) through " ++
    s!"line {span.stop.line} (column {span.stop.column - 1})"

/-- The report of a fault in the text of a pattern. -/
def report (fault : Fault) (text : String) : String :=
  let parts := text.splitOn "\n"
  let spans := fault.earlier.toList ++ [fault.span]
  let (short, long) := spans.partition fun span => span.start.line = span.stop.line
  let numbered := 1 < parts.length
  let width := if numbered then (toString parts.length).length else 0
  let rule := if numbered then ["".pushn '~' 79] else []
  let shown := rule ++ annotated width short (patternLines parts) ++ rule
  "\n".intercalate
    (["regex parse error:"] ++ shown ++ long.map extent ++ ["error: " ++ fault.mistake.message])

end Fault

end Playstation.Pattern
