import Playstation.Pattern.Reader

/-!
# Escapes of patterns

A backslash takes the meaning from signs and gives one to letters. What it
makes is a character, a class of characters or a place.
-/

namespace Playstation.Pattern

/-- Whether a character after a backslash stands for itself. -/
def isSelfEscaped (c : Char) : Bool := c.toNat < 0x80 && !c.isAlphanum && c ≠ '<' && c ≠ '>'

/-- The control character with a letter. -/
def controlLetter? : Char → Option Char
  | 'a' => some '\x07'
  | 'f' => some '\x0c'
  | 't' => some '\t'
  | 'n' => some '\n'
  | 'r' => some '\r'
  | 'v' => some '\x0b'
  | _ => none

/-- How many digits the code of a character has after a letter. -/
def codeLength? : Char → Option Nat
  | 'x' => some 2
  | 'u' => some 4
  | 'U' => some 8
  | _ => none

/-- The place with a letter or sign. -/
def letterPlace? : Char → Option PlaceTerm
  | 'A' => some .textStart
  | 'z' => some .textEnd
  | 'b' => some (.edge .boundary)
  | 'B' => some (.edge .inside)
  | '<' => some (.edge .start)
  | '>' => some (.edge .stop)
  | _ => none

/-- The edge of words with a name. -/
def namedEdge? : String → Option Edge
  | "start" => some .start
  | "end" => some .stop
  | "start-half" => some .startHalf
  | "end-half" => some .stopHalf
  | _ => none

/-- Whether a character is a hexadecimal digit. -/
def isHexDigit (c : Char) : Bool := (hexDigit? c).isSome

namespace Reader

/-- The character with a code. -/
def codedCharacter (digits : List Char) (span : Span) : Reader Char := do
  let code := ofDigits 16 digits
  if code.isValidChar then return Char.ofNat code
  else throw ⟨.hexInvalid, span, none⟩

/-- Take a number of hexadecimal digits. -/
def codeDigits : Nat → Reader (List Char)
  | 0 => pure []
  | count + 1 => do
    match ← peek with
    | none => failNext .escapeUnfinished
    | some c =>
      if isHexDigit c then
        advance
        return c :: (← codeDigits count)
      else failNext .hexDigit

/-- Take the code of a character between braces. -/
def bracedCode : Reader Char := do
  let brace ← position
  drop
  let start ← position
  gaps
  let digits ← takeWhile advance isHexDigit
  match ← peek with
  | none => fail .escapeUnfinished brace
  | some '}' =>
    let span ← spanFrom start
    advance
    if digits.isEmpty then fail .hexEmpty brace else codedCharacter digits span
  | some _ => failNext .hexDigit

/-- Take the code of a character, after its letter. Whether it is one of two
digits is returned too. -/
def code (count : Nat) : Reader (Char × Bool) := do
  match ← peek with
  | none => failNext .escapeUnfinished
  | some '{' => return (← bracedCode, false)
  | some _ =>
    let start ← position
    let digits ← codeDigits count
    return (← codedCharacter digits (← spanFrom start), count == 2)

/-- Take the name of a property, after its letter. -/
def property : Reader (List Char) := do
  match ← peek with
  | none => failNext .escapeUnfinished
  | some '{' =>
    advance
    let name ← takeWhile advance (· ≠ '}')
    if (← peek).isNone then failNext .escapeUnfinished
    drop
    return name
  | some '\\' => failNext .propertyInvalid
  | some c =>
    advance
    return [c]

/-- Take the name of an edge of words between braces, if there is one. What
starts with no letter is left: it can be a count. -/
def namedEdge (start : Position) : Reader (Option Edge) := do
  let before ← get
  let brace ← position
  advance
  let inside ← position
  let isNamed (c : Char) : Bool := c.isAlpha || c = '-'
  match ← peek with
  | none => fail .edgeUnfinished start
  | some c =>
    if isNamed c then
      let name ← takeWhile advance isNamed
      if (← peek) ≠ some '}' then fail .edgeUnclosed brace
      let span ← spanFrom inside
      drop
      match namedEdge? (String.ofList name) with
      | some edge => return some edge
      | none => throw ⟨.edgeUnknown, span, none⟩
    else
      set before
      return none

/-- The primitive of an escape of a single character, after that character. -/
def singleEscape (start : Position) (c : Char) : Reader Primitive := do
  if isSelfEscaped c then return .literal ⟨c, false, ← spanFrom start⟩
  else
    match controlLetter? c, letterPlace? c with
    | some control, _ => return .literal ⟨control, false, ← spanFrom start⟩
    | none, some kind =>
      if c = 'b' ∧ (← peek) = some '{' then
        match ← namedEdge start with
        | some edge => return .place (.edge edge) (← spanFrom start)
        | none => return .place kind (← spanFrom start)
      else return .place kind (← spanFrom start)
    | none, none => fail .escapeUnknown start

/-- Take an escape after its backslash, which is at a position. -/
def escaped (start : Position) : Reader Primitive := do
  match ← peek with
  | none => fail .escapeUnfinished start
  | some c =>
    if c.isDigit then
      drop
      fail .groupReference start
    else
      match codeLength? c, LetterClass.ofChar? c.toLower with
      | some count, _ =>
        advance
        let (char, coded) ← code count
        return .literal ⟨char, coded, ← spanFrom start⟩
      | none, some letter =>
        drop
        return .letter letter c.isUpper (← spanFrom start)
      | none, none =>
        if c = 'p' ∨ c = 'P' then
          advance
          let name ← property
          return .property name (c = 'P') (← spanFrom start)
        else
          drop
          singleEscape start c

/-- Take an escape, or a character which stands for itself. -/
def primitive : Reader Primitive := do
  let start ← position
  match ← peek with
  | some '\\' =>
    drop
    escaped start
  | some c =>
    drop
    return .literal ⟨c, false, ← spanFrom start⟩
  | none => failNext .escapeUnfinished

end Reader

end Playstation.Pattern
