/-!
# White space

The characters which do not count at the ends of a part of a log filter: all
those which Unicode calls white space.
-/

namespace Playstation

/-- The ranges of white space, both ends included, in ascending order. -/
def whiteSpaceRanges : List (Nat × Nat) :=
  [(0x09, 0x0d), (0x20, 0x20), (0x85, 0x85), (0xa0, 0xa0), (0x1680, 0x1680), (0x2000, 0x200a),
    (0x2028, 0x2029), (0x202f, 0x202f), (0x205f, 0x205f), (0x3000, 0x3000)]

/-- Whether a character is white space. -/
def isWhiteSpace (c : Char) : Bool :=
  whiteSpaceRanges.any fun range => range.1 ≤ c.toNat && c.toNat ≤ range.2

/-- A text without the white space at its ends. -/
def trimmed (text : String) : String :=
  let started := text.toList.dropWhile isWhiteSpace
  String.ofList (started.reverse.dropWhile isWhiteSpace).reverse

end Playstation
