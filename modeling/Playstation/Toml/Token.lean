import Playstation.Hex

/-!
# Tokens of settings files

Settings are written in TOML. A text is cut into tokens: marks, blanks, line
ends, comments, bare words and quoted strings. What a bare word means is left
to its place: `10` may be a key or a number. A carriage return belongs to the
line end which follows it and stands nowhere else.
-/

namespace Playstation.Toml

/-- A token of a text. -/
inductive Token where
  /-- Spaces and tabs. -/
  | blank (text : String)
  /-- The end of a line. -/
  | newline
  /-- A comment, without the end of its line. -/
  | comment
  /-- An equals sign. -/
  | equals
  /-- A dot. -/
  | dot
  /-- A comma. -/
  | comma
  /-- A colon. -/
  | colon
  /-- A plus sign. -/
  | plus
  /-- An opening brace. -/
  | openBrace
  /-- A closing brace. -/
  | closeBrace
  /-- An opening bracket. -/
  | openBracket
  /-- A closing bracket. -/
  | closeBracket
  /-- Letters, digits, minus signs and underscores. -/
  | word (text : String)
  /-- A string between quotes, or between three quotes on each side, which
  allow it to have line ends. -/
  | quoted (text : String) (multiline : Bool)
  deriving DecidableEq

/-- Characters of blanks. -/
def isBlank (c : Char) : Bool := c = ' ' || c = '\t'

/-- Characters of bare words. -/
def isBare (c : Char) : Bool := c.isAlphanum || c = '-' || c = '_'

/-- Characters of comments. -/
def isRemark (c : Char) : Bool := c = '\t' || 0x20 ≤ c.toNat

/-- Characters which stand for themselves in strings. -/
def isPlain (c : Char) : Bool := isRemark c && c.toNat ≠ 0x7f

/-- Tokens of a single character. -/
def mark? : Char → Option Token
  | '\n' => some .newline
  | '=' => some .equals
  | '.' => some .dot
  | ',' => some .comma
  | ':' => some .colon
  | '+' => some .plus
  | '{' => some .openBrace
  | '}' => some .closeBrace
  | '[' => some .openBracket
  | ']' => some .closeBracket
  | _ => none

/-- What an escape of two characters stands for. -/
def escaped? : Char → Option Char
  | '"' => some '"'
  | '\\' => some '\\'
  | 'b' => some '\x08'
  | 'f' => some '\x0c'
  | 'n' => some '\n'
  | 'r' => some '\r'
  | 't' => some '\t'
  | _ => none

/-- How the next character of a string is read. -/
inductive Reading where
  /-- As part of the text. -/
  | text
  /-- As the character after a backslash. -/
  | escape
  /-- As one of the remaining digits of a character code. -/
  | code (remaining value : Nat)
  /-- As one of the blanks between a backslash and the end of its line. -/
  | lineTail
  /-- As one of the blanks and line ends after such a line, if it is one. -/
  | lineGap
  deriving DecidableEq

/-- What a character of a string does. -/
inductive Effect where
  /-- It changes how the next one is read, and adds to the text. -/
  | turn (reading : Reading) (added : List Char)
  /-- It may close the string. -/
  | close
  /-- It has no place there. -/
  | refuse
  deriving DecidableEq

/-- What a character does in the text of a string. Only double quotes give
the backslash a meaning, and only three quotes allow a line end. -/
def inText (quote : Char) (multiline : Bool) (c : Char) : Effect :=
  if c = quote then .close
  else if c = '\\' ∧ quote = '"' then .turn .escape []
  else if isPlain c ∨ multiline ∧ c = '\n' then .turn .text [c]
  else .refuse

/-- What a character does after a backslash. -/
def inEscape (multiline : Bool) (c : Char) : Effect :=
  match escaped? c with
  | some c => .turn .text [c]
  | none =>
    if c = 'u' then .turn (.code 4 0) []
    else if c = 'U' then .turn (.code 8 0) []
    else if multiline ∧ c = '\n' then .turn .lineGap []
    else if multiline ∧ isBlank c then .turn .lineTail []
    else .refuse

/-- What a character does in a character code. -/
def inCode (remaining value : Nat) (c : Char) : Effect :=
  match hexDigit? c with
  | some digit =>
    let value := 16 * value + digit
    if 1 < remaining then .turn (.code (remaining - 1) value) []
    else if value.isValidChar then .turn .text [Char.ofNat value]
    else .refuse
  | none => .refuse

/-- What a character of a string does. -/
def effect (quote : Char) (multiline : Bool) (reading : Reading) (c : Char) : Effect :=
  match reading with
  | .text => inText quote multiline c
  | .escape => inEscape multiline c
  | .code remaining value => inCode remaining value c
  | .lineTail =>
    if c = '\n' then .turn .lineGap []
    else if isBlank c then .turn .lineTail []
    else .refuse
  | .lineGap =>
    if isBlank c ∨ c = '\n' then .turn .lineGap []
    else inText quote multiline c

/-- How many quotes a list of characters begins with. -/
def quotesAhead (quote : Char) (cs : List Char) : Nat := (cs.takeWhile (· = quote)).length

/-- Whether a quote closes a string, given what follows it. Of more than three
quotes which close a string between three quotes the first ones, but no more
than two, belong to its text. These are returned, and what follows. -/
def closing? (quote : Char) (multiline : Bool) (cs : List Char) : Option (List Char × List Char) :=
  if multiline then
    if quotesAhead quote cs < 2 then none
    else
      let kept := min (quotesAhead quote cs - 2) 2
      some (List.replicate kept quote, cs.drop (kept + 2))
  else some ([], cs)

/-- What follows a string is part of what followed its closing quote. -/
theorem closing?_length {quote : Char} {multiline : Bool} {cs kept rest : List Char}
    (h : closing? quote multiline cs = some (kept, rest)) : rest.length ≤ cs.length := by
  unfold closing? at h
  split at h
  · split at h
    · cases h
    · cases h
      simp
  · cases h
    exact Nat.le_refl _

/-- Read a string up to its closing quotes. What was read before is given in
reverse. The text of the string and the characters after it are returned. -/
def readQuoted (quote : Char) (multiline : Bool) (reading : Reading) (text : List Char) :
    List Char → Option (String × List Char)
  | [] => none
  | c :: rest =>
    match effect quote multiline reading c with
    | .turn reading added => readQuoted quote multiline reading (added ++ text) rest
    | .close =>
      match closing? quote multiline rest with
      | some (kept, rest) => some (String.ofList (text.reverse ++ kept), rest)
      | none => readQuoted quote multiline .text (c :: text) rest
    | .refuse => none

/-- Reading a string consumes its closing quotes. -/
theorem readQuoted_length {quote : Char} {multiline : Bool} {reading : Reading}
    {text cs rest : List Char} {result : String}
    (h : readQuoted quote multiline reading text cs = some (result, rest)) :
    rest.length < cs.length := by
  induction cs generalizing reading text with
  | nil => cases h
  | cons c cs ih =>
    rw [readQuoted] at h
    split at h
    · exact Nat.lt_succ_of_lt (ih h)
    · split at h
      · cases h
        exact Nat.lt_succ_of_le (closing?_length (by assumption))
      · exact Nat.lt_succ_of_lt (ih h)
    · cases h

/-- Read a string after its first quote. The first line end of a string
between three quotes is not part of it. -/
def quoted? (quote : Char) (cs : List Char) : Option (Token × List Char) :=
  match quotesAhead quote cs with
  | 0 => (readQuoted quote false .text [] cs).map fun (text, rest) => (.quoted text false, rest)
  | 1 => some (.quoted "" false, cs.drop 1)
  | _ =>
    let cs := cs.drop 2
    let cs := if cs.head? = some '\n' then cs.drop 1 else cs
    (readQuoted quote true .text [] cs).map fun (text, rest) => (.quoted text true, rest)

/-- A string is not longer than what it is read from. -/
theorem quoted?_length {quote : Char} {cs rest : List Char} {token : Token}
    (h : quoted? quote cs = some (token, rest)) : rest.length ≤ cs.length := by
  unfold quoted? at h
  split at h
  · obtain ⟨pair, hr, heq⟩ := Option.map_eq_some_iff.1 h
    cases heq
    exact Nat.le_of_lt (readQuoted_length hr)
  · cases h
    simp
  · obtain ⟨pair, hr, heq⟩ := Option.map_eq_some_iff.1 h
    cases heq
    have := readQuoted_length hr
    split at this <;> simp at this <;> omega

/-- Append the tokens of a text, if it has no character out of place. -/
def scan (tokens : Array Token) (cs : List Char) : Option (Array Token) :=
  match cs with
  | [] => some tokens
  | c :: rest =>
    match mark? c with
    | some token => scan (tokens.push token) rest
    | none =>
      if isBlank c then
        scan (tokens.push (.blank (String.ofList (c :: rest.takeWhile isBlank))))
          (rest.dropWhile isBlank)
      else if c = '#' then scan (tokens.push .comment) (rest.dropWhile isRemark)
      else if isBare c then
        scan (tokens.push (.word (String.ofList (c :: rest.takeWhile isBare))))
          (rest.dropWhile isBare)
      else if c = '"' ∨ c = '\'' then
        match _h : quoted? c rest with
        | some (token, rest) => scan (tokens.push token) rest
        | none => none
      else none
termination_by cs.length
decreasing_by
  all_goals simp only [List.length_cons]
  · omega
  · have := (List.dropWhile_sublist isBlank (l := rest)).length_le
    omega
  · have := (List.dropWhile_sublist isRemark (l := rest)).length_le
    omega
  · have := (List.dropWhile_sublist isBare (l := rest)).length_le
    omega
  · have := quoted?_length _h
    omega

/-- The tokens of a text. A byte order mark may stand before them. -/
def Token.ofText? (text : String) : Option (List Token) :=
  let cs := (text.replace "\r\n" "\n").toList
  let cs := if cs.head? = some '\ufeff' then cs.drop 1 else cs
  (scan #[] cs).map Array.toList

end Playstation.Toml
