import Playstation.Toml.Token

/-!
# Readers

A reader takes tokens from the front of a list, or fails. The readers here
take single tokens, blanks and keys.
-/

namespace Playstation.Toml

/-- What is read from the front of a list of tokens, with the tokens left. -/
abbrev Reader : Type → Type := StateT (List Token) Option

/-- Whether a token is a blank. -/
def Token.isBlank : Token → Bool
  | blank _ => true
  | _ => false

/-- Whether a token has no meaning inside of an array. -/
def Token.isGap : Token → Bool
  | blank _ | newline | comment => true
  | _ => false

/-- The text of a token which can be a part of a key: a word, or a string on
a single line. -/
def Token.name? : Token → Option String
  | word text | quoted text false => some text
  | _ => none

namespace Reader

/-- Leave out blanks. -/
def blanks : Reader Unit := modify fun tokens => tokens.dropWhile Token.isBlank

/-- Leave out blanks, comments and line ends. -/
def gaps : Reader Unit := modify fun tokens => tokens.dropWhile Token.isGap

/-- Take a token if it is the next one. -/
def accept (token : Token) : Reader Bool := fun tokens =>
  match tokens with
  | next :: rest => if next = token then some (true, rest) else some (false, tokens)
  | [] => some (false, [])

/-- Take a token, which has to be the next one. -/
def expect (token : Token) : Reader Unit := do
  if ← accept token then pure () else failure

/-- Take the next token. -/
def next : Reader Token := fun tokens =>
  match tokens with
  | token :: rest => some (token, rest)
  | [] => none

/-- Take a bare word. -/
def word : Reader String := do
  match ← next with
  | .word text => pure text
  | _ => failure

/-- Take the end of a line, or come to the end of the text. A comment may stand
before it. -/
def lineEnd : Reader Unit := fun tokens =>
  match tokens.dropWhile Token.isBlank with
  | [] | [.comment] => some ((), [])
  | .newline :: rest | .comment :: .newline :: rest => some ((), rest)
  | _ => none

/-- The parts of a key at the front of a list of tokens, and the tokens after
it. Dots stand between the parts and blanks around them. -/
def keyParts (afterDot : Bool) : List Token → Option (List String × List Token)
  | [] => if afterDot then none else some ([], [])
  | token :: rest =>
    if token.isBlank then keyParts afterDot rest
    else if afterDot then
      match token.name?, keyParts false rest with
      | some text, some (parts, rest) => some (text :: parts, rest)
      | _, _ => none
    else if token = .dot then keyParts true rest
    else some ([], token :: rest)

/-- Take a key. -/
def key : Reader (List String) := keyParts true

end Reader

end Playstation.Toml
