import Playstation.Pattern.Letter

/-!
# Sets of characters

A set of characters is a list of ranges of character codes, both ends included.
The ranges ascend, and at least one code stands between two of them, so that a
set has only one list. All operations keep this form.
-/

namespace Playstation.Pattern

/-- A set of characters. -/
abbrev CharacterSet : Type := List (Nat × Nat)

namespace CharacterSet

/-- The largest code of a character. -/
def lastCode : Nat := 0x10ffff

/-- Whether a set has a character. -/
def has (set : CharacterSet) (c : Char) : Bool := inRanges set c.toNat

/-- The set of all characters. -/
def everything : CharacterSet := [(0, lastCode)]

/-- The set of a single character. -/
def single (c : Char) : CharacterSet := [(c.toNat, c.toNat)]

/-- The only character of a set, if there is just one. -/
def only? : CharacterSet → Option Char
  | [(low, high)] => if low = high then some (Char.ofNat low) else none
  | _ => none

/-- Whether a set only has characters below 128. -/
def isPlain (set : CharacterSet) : Bool := List.all set fun range => range.2 < 0x80

/-- Add a range of codes. -/
def insert (low high : Nat) : CharacterSet → CharacterSet
  | [] => [(low, high)]
  | (start, stop) :: rest =>
    if high + 1 < start then (low, high) :: (start, stop) :: rest
    else if stop + 1 < low then (start, stop) :: insert low high rest
    else insert (min low start) (max high stop) rest

/-- The characters of two sets. -/
def union (first second : CharacterSet) : CharacterSet :=
  second.foldl (fun set range => insert range.1 range.2 set) first

/-- The codes from one on which are not in the ranges. -/
def gapsFrom (code : Nat) : CharacterSet → CharacterSet
  | [] => if code ≤ lastCode then [(code, lastCode)] else []
  | (start, stop) :: rest =>
    if code < start then (code, start - 1) :: gapsFrom (stop + 1) rest
    else gapsFrom (stop + 1) rest

/-- The characters which are not in a set. -/
def complement (set : CharacterSet) : CharacterSet := gapsFrom 0 set

/-- The characters of both of two sets. -/
def intersection (first second : CharacterSet) : CharacterSet :=
  complement (union (complement first) (complement second))

/-- The characters of the first of two sets only. -/
def difference (first second : CharacterSet) : CharacterSet :=
  intersection first (complement second)

/-- The characters of just one of two sets. -/
def symmetricDifference (first second : CharacterSet) : CharacterSet :=
  union (difference first second) (difference second first)

/-- The characters of a set in both cases. Only letters below 128 have two. -/
def inBothCases (set : CharacterSet) : CharacterSet :=
  let small := (intersection set [(0x41, 0x5a)]).map fun range => (range.1 + 0x20, range.2 + 0x20)
  let capital := (intersection set [(0x61, 0x7a)]).map fun range => (range.1 - 0x20, range.2 - 0x20)
  union set (union small capital)

/-- The set with a name. -/
def named? : String → Option CharacterSet
  | "alnum" => some [(0x30, 0x39), (0x41, 0x5a), (0x61, 0x7a)]
  | "alpha" => some [(0x41, 0x5a), (0x61, 0x7a)]
  | "ascii" => some [(0x00, 0x7f)]
  | "blank" => some [(0x09, 0x09), (0x20, 0x20)]
  | "cntrl" => some [(0x00, 0x1f), (0x7f, 0x7f)]
  | "digit" => some [(0x30, 0x39)]
  | "graph" => some [(0x21, 0x7e)]
  | "lower" => some [(0x61, 0x7a)]
  | "print" => some [(0x20, 0x7e)]
  | "punct" => some [(0x21, 0x2f), (0x3a, 0x40), (0x5b, 0x60), (0x7b, 0x7e)]
  | "space" => some [(0x09, 0x0d), (0x20, 0x20)]
  | "upper" => some [(0x41, 0x5a)]
  | "word" => some [(0x30, 0x39), (0x41, 0x5a), (0x5f, 0x5f), (0x61, 0x7a)]
  | "xdigit" => some [(0x30, 0x39), (0x41, 0x46), (0x61, 0x66)]
  | _ => none

/-- The digits. -/
def digits : CharacterSet := [(0x30, 0x39)]

/-- White space below 128. -/
def blanks : CharacterSet := [(0x09, 0x0d), (0x20, 0x20)]

/-- Letters below 128, digits and the low line. -/
def wordCharacters : CharacterSet := [(0x30, 0x39), (0x41, 0x5a), (0x5f, 0x5f), (0x61, 0x7a)]

end CharacterSet

end Playstation.Pattern
