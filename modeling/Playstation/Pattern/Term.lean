import Playstation.Pattern.Basic
import Playstation.Pattern.Fault

/-!
# Terms of patterns

A term is what a pattern says as it is written, each part with its place in the
text. What a term means depends on the flags which are on where it stands.
-/

namespace Playstation.Pattern

/-- What a part of a pattern can turn on or off. -/
inductive Flag where
  /-- Letters are the same without regard to case. -/
  | caseless
  /-- Lines have a start and an end, not only texts. -/
  | lines
  /-- A dot matches all characters. -/
  | wholeDot
  /-- Repetitions prefer to be short. -/
  | lazy
  /-- Classes, cases and edges of words are those of all scripts. -/
  | unicode
  /-- Carriage returns end lines. -/
  | carriage
  /-- Blanks and comments do not count. -/
  | spaced
  deriving DecidableEq

/-- The flag with a letter. -/
def Flag.ofChar? : Char → Option Flag
  | 'i' => some caseless
  | 'm' => some lines
  | 's' => some wholeDot
  | 'U' => some lazy
  | 'u' => some unicode
  | 'R' => some carriage
  | 'x' => some spaced
  | _ => none

/-- Which flags are on. -/
abbrev Flags : Type := Flag → Bool

/-- Flags which are turned on or off. -/
abbrev Changes : Type := List (Flag × Bool)

namespace Flags

/-- The flags which are on at the start of a pattern. -/
def standard : Flags := (· = .unicode)

/-- The flags after a change. -/
def set (flags : Flags) (change : Flag × Bool) : Flags :=
  fun flag => if flag = change.1 then change.2 else flags flag

/-- The flags after some changes. -/
def change (flags : Flags) (changes : Changes) : Flags := changes.foldl set flags

end Flags

/-- A class of characters which has a letter. -/
inductive LetterClass where
  /-- Digits. -/
  | digits
  /-- White space. -/
  | blanks
  /-- The characters of words. -/
  | words
  deriving DecidableEq

namespace LetterClass

/-- The class with a letter. -/
def ofChar? : Char → Option LetterClass
  | 'd' => some digits
  | 's' => some blanks
  | 'w' => some words
  | _ => none

/-- The characters of the class below 128. -/
def plain : LetterClass → CharacterSet
  | digits => .digits
  | blanks => .blanks
  | words => .wordCharacters

end LetterClass

/-- A place as it is written. -/
inductive PlaceTerm where
  /-- The start of a line or text. -/
  | lineStart
  /-- The end of a line or text. -/
  | lineEnd
  /-- The start of the text. -/
  | textStart
  /-- The end of the text. -/
  | textEnd
  /-- An edge of words. -/
  | edge (kind : Edge)
  deriving DecidableEq

/-- A character which stands for itself, perhaps written by a code of two
digits. -/
structure Literal where
  /-- The character. -/
  char : Char
  /-- Whether it is written by such a code. -/
  coded : Bool
  /-- Where it is written. -/
  span : Span

/-- The least part of a pattern. -/
inductive Primitive where
  /-- A character. -/
  | literal (written : Literal)
  /-- A class with a letter, or its opposite. -/
  | letter (letter : LetterClass) (negative : Bool) (span : Span)
  /-- The characters with a property, or without it. -/
  | property (name : List Char) (negative : Bool) (span : Span)
  /-- A place. -/
  | place (kind : PlaceTerm) (span : Span)

/-- Where a primitive is written. -/
def Primitive.span : Primitive → Span
  | literal written => written.span
  | letter _ _ span | property _ _ span | place _ span => span

/-- How two classes are combined. -/
inductive Combination where
  /-- What is in both. -/
  | intersection
  /-- What is in the first only. -/
  | difference
  /-- What is in only one of them. -/
  | symmetricDifference
  deriving DecidableEq

namespace Combination

/-- The combination for which a sign is doubled. -/
def ofChar? : Char → Option Combination
  | '&' => some intersection
  | '-' => some difference
  | '~' => some symmetricDifference
  | _ => none

/-- The combination of two sets. -/
def apply : Combination → CharacterSet → CharacterSet → CharacterSet
  | intersection => .intersection
  | difference => .difference
  | symmetricDifference => .symmetricDifference

end Combination

/-- What a class between brackets is made of. -/
inductive ClassTerm where
  /-- Nothing. -/
  | empty (span : Span)
  /-- A character, or the class with a letter or property. -/
  | primitive (item : Primitive)
  /-- The characters between two, and these. -/
  | range (low high : Literal)
  /-- A set with a name, or its opposite. -/
  | named (set : CharacterSet) (negative : Bool) (span : Span)
  /-- A class between brackets, or its opposite. -/
  | nested (body : ClassTerm) (negative : Bool) (span : Span)
  /-- Several items. -/
  | union (items : List ClassTerm) (span : Span)
  /-- Two classes combined. -/
  | combined (combination : Combination) (left right : ClassTerm) (span : Span)

/-- Where a part of a class is written. -/
def ClassTerm.span : ClassTerm → Span
  | primitive item => item.span
  | range low high => ⟨low.span.start, high.span.stop⟩
  | empty span | named _ _ span | nested _ _ span | union _ span | combined _ _ _ span => span

/-- A pattern as it is written. -/
inductive Term where
  /-- Nothing. -/
  | empty (span : Span)
  /-- Nothing, but flags are turned on or off for the rest of the group. -/
  | setting (changes : Changes) (span : Span)
  /-- A character, a class with a letter or property, or a place. -/
  | primitive (item : Primitive)
  /-- A dot. -/
  | dot (span : Span)
  /-- A class between brackets, or its opposite. -/
  | bracket (body : ClassTerm) (negative : Bool) (span : Span)
  /-- A term several times, with a limit if there is one. -/
  | repeated (least : Nat) (most : Option Nat) (body : Term) (span : Span)
  /-- A group which is remembered under a number. -/
  | captured (number : Nat) (body : Term) (span : Span)
  /-- A group for which flags are turned on or off. -/
  | group (changes : Changes) (body : Term) (span : Span)
  /-- Several terms, one after another. -/
  | sequence (items : List Term) (span : Span)
  /-- One of several terms. -/
  | choice (options : List Term) (span : Span)

/-- Where a part of a pattern is written. -/
def Term.span : Term → Span
  | primitive item => item.span
  | empty span | setting _ span | dot span | bracket _ _ span | repeated _ _ _ span
  | captured _ _ span | group _ _ span | sequence _ span | choice _ span => span

end Playstation.Pattern
