import Playstation.Toml.Number
import Playstation.Toml.Outline
import Playstation.Toml.Reader

/-!
# Values of settings files

A value is a string, a number, a truth value, a date or time, an array of
values or a table in braces. Real numbers, dates and times are recognized but
not evaluated, because no setting takes one.
-/

namespace Playstation.Toml

/-- A value. -/
inductive Value where
  /-- A string. -/
  | string (text : String)
  /-- An integer. -/
  | integer (value : Int)
  /-- A truth value. -/
  | boolean (value : Bool)
  /-- A real number. -/
  | real
  /-- A date, a time or both. -/
  | moment
  /-- An array. -/
  | array (items : List Value)
  /-- A table, each of its entries with the parts of its key. -/
  | table (entries : List (List String × Value))

/-- Entries, each with the parts of its key. -/
abbrev Entries : Type := List (List String × Value)

/-- The entries of a table of which more may follow. -/
structure Draft where
  /-- The entries, the last one first. -/
  reversed : Entries
  /-- The outline of their keys. -/
  names : Names KeyMark

namespace Draft

/-- No entries. -/
def empty : Draft := ⟨[], []⟩

/-- The entries in order. -/
def entries (draft : Draft) : Entries := draft.reversed.reverse

/-- Append an entry, unless its key cannot stand beside the others. -/
def append? (draft : Draft) (key : List String) (value : Value) : Option Draft :=
  (draft.names.enter? key).map fun names => ⟨(key, value) :: draft.reversed, names⟩

end Draft

namespace Reader

/-! ## Numbers and dates -/

/-- Take an exponent, given the end of the word of its number. It may follow
a plus sign in a word of its own. -/
def exponent (suffix : List Char) : Reader Int := do
  match suffix with
  | [] => pure 0
  | mark :: rest =>
    if mark ≠ 'e' ∧ mark ≠ 'E' then failure
    else
      let (negative, rest) ←
        if rest = [] then do
          expect .plus
          pure (false, (← word).toList)
        else pure (signed rest)
      match digits? 10 true rest with
      | some (digits, []) => pure (withSign negative (ofDigits 10 digits))
      | _ => failure

/-- Take a real number, given its first word and the word after its point, if
it has a point. -/
def real (start : List Char) (fraction : Option (List Char)) : Reader Value := do
  let (whole, suffix) ← digits? 10 false (signed start).2
  let (decimals, suffix) ←
    match fraction with
    | none => pure ([], suffix)
    | some fraction => if suffix = [] then digits? 10 true fraction else none
  let exponent ← exponent suffix
  if isFinite (whole ++ decimals) (exponent - decimals.length) then pure .real else failure

/-- Whether the letter after a leading zero of a word tells its base. -/
def tellsBase : List Char → Bool
  | '0' :: c :: _ => c = 'x' || c = 'o' || c = 'b'
  | _ => false

/-- Take a number, given its first word. -/
def number (start : String) : Reader Value := do
  let cs := start.toList
  if tellsBase cs then pure (.integer (← integer? cs))
  else if cs.contains 'e' ∨ cs.contains 'E' then real cs none
  else if ← accept .dot then real cs (some (← word).toList)
  else if ["inf", "-inf", "nan", "-nan"].contains start then pure .real
  else pure (.integer (← integer? cs))

/-- Take a mark and the word which has to follow it, if the mark is there. -/
def wordAfter (mark : Token) : Reader Unit := do
  if ← accept mark then discard word

/-- Take the hour of a time after a single space, if there is one. -/
def hour : Reader Unit := modify fun tokens =>
  match tokens with
  | .blank " " :: .word _ :: rest => rest
  | _ => tokens

/-- Take a date or a time, given its first word and whether a colon followed
it. -/
def moment (colon : Bool) : Reader Value := do
  hour
  let timed ← if colon then pure true else accept .colon
  if timed then
    discard word
    expect .colon
    discard word
    wordAfter .dot
    wordAfter .plus
    wordAfter .colon
  pure .moment

/-- Whether a word is the start of a date. The minus sign of an exponent does
not make one. -/
def startsDate (word : List Char) : Bool :=
  let follows (c : Char) := (word.zip (word.drop 1)).contains (c, '-')
  word.contains 'T' || word.contains 't' ||
    ((word.drop 1).contains '-' && !follows 'e' && !follows 'E')

/-- Take a value, given its first word. -/
def valueOfWord (start : String) : Reader Value := do
  let cs := start.toList
  if start = "true" then pure (.boolean true)
  else if start = "false" then pure (.boolean false)
  else if start = "inf" ∨ start = "nan" ∨ cs.head?.any fun c => c = '-' || c.isDigit then
    if startsDate cs then moment false
    else if ← accept .colon then moment true
    else number start
  else failure

/-! ## Entries and values -/

mutual

/-- Take a value of a limited depth and length. -/
def valueWithin : Nat → Reader Value
  | 0 => failure
  | fuel + 1 => do
    match ← next with
    | .quoted text _ => pure (.string text)
    | .word start => valueOfWord start
    | .plus => number (← word)
    | .openBracket => pure (.array (← itemsWithin fuel []))
    | .openBrace =>
      blanks
      if ← accept .closeBrace then pure (.table [])
      else pure (.table (← entriesWithin fuel .empty))
    | _ => failure

/-- Take the remaining items of an array and its closing bracket, given the
items before them in reverse. -/
def itemsWithin : Nat → List Value → Reader (List Value)
  | 0, _ => failure
  | fuel + 1, items => do
    gaps
    if ← accept .closeBracket then pure items.reverse
    else
      let items := (← valueWithin fuel) :: items
      gaps
      if ← accept .comma then itemsWithin fuel items
      else
        expect .closeBracket
        pure items.reverse

/-- Take the remaining entries of a table in braces and its closing brace. -/
def entriesWithin : Nat → Draft → Reader Entries
  | 0, _ => failure
  | fuel + 1, draft => do
    let key ← key
    expect .equals
    blanks
    let draft ← draft.append? key (← valueWithin fuel)
    blanks
    if ← accept .comma then entriesWithin fuel draft
    else
      expect .closeBrace
      pure draft.entries

end

end Reader

end Playstation.Toml
