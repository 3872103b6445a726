import Playstation.Toml.Token

/-!
# Numbers of settings files

How a bare word is read as a number. Underscores may stand between two digits,
decimal numbers have no zeros in front, an integer fits into 64 bits with a
sign, and a real number is less than what rounds to infinity in double
precision. The value of a real number is not needed.
-/

namespace Playstation.Toml

/-- Whether each underscore of a list of characters stands between two
others. -/
def isGrouped : List Char → Bool
  | [] => false
  | [c] => c ≠ '_'
  | c :: d :: rest => c ≠ '_' && (if d = '_' then isGrouped rest else isGrouped (d :: rest))

/-- Whether a character is a digit in a base of up to sixteen. -/
def isDigitOf (base : Nat) (c : Char) : Bool :=
  match hexDigit? c with
  | some digit => digit < base
  | none => false

/-- The digits at the start of a list of characters, without underscores, and
the characters after them. -/
def digits? (base : Nat) (zerosInFront : Bool) (cs : List Char) : Option (List Char × List Char) :=
  let belongs c := isDigitOf base c || c = '_'
  let digits := (cs.takeWhile belongs).filter (· ≠ '_')
  if isGrouped (cs.takeWhile belongs) ∧
      (zerosInFront ∨ digits.head? ≠ some '0' ∨ digits.length = 1) then
    some (digits, cs.dropWhile belongs)
  else none

/-- A minus sign in front, if there is one, and the rest. -/
def signed : List Char → Bool × List Char
  | '-' :: rest => (true, rest)
  | cs => (false, cs)

/-- The number with a sign and a size. -/
def withSign (negative : Bool) (size : Nat) : Int := if negative then -(size : Int) else size

/-- The integer of at most 64 bits which is written in a base. -/
def integerIn? (base : Nat) (negative zerosInFront : Bool) (cs : List Char) : Option Int :=
  match digits? base zerosInFront cs with
  | some (digits, []) =>
    let value := withSign negative (ofDigits base digits)
    if -0x8000000000000000 ≤ value ∧ value ≤ 0x7fffffffffffffff then some value else none
  | _ => none

/-- The integer which a word means. A letter after a zero tells its base, if
it is not ten. -/
def integer? (word : List Char) : Option Int :=
  match word with
  | '0' :: 'x' :: rest => integerIn? 16 false true rest
  | '0' :: 'o' :: rest => integerIn? 8 false true rest
  | '0' :: 'b' :: rest => integerIn? 2 false true rest
  | _ => integerIn? 10 (signed word).1 false (signed word).2

/-- Half way between the largest number of double precision and the next power
of two. What is less than that does not round to infinity. -/
def realLimit : Nat := ((1 <<< 54) - 1) <<< 970

/-- Whether a decimal number, digits times a power of ten, is finite in double
precision. More than 310 digits before the point are too many. -/
def isFinite (digits : List Char) (exponent : Int) : Bool :=
  let value := ofDigits 10 digits
  if value = 0 ∨ exponent + digits.length ≤ 0 then true
  else if 310 < exponent + (Nat.toDigits 10 value).length then false
  else if 0 ≤ exponent then value * Nat.pow 10 exponent.toNat < realLimit
  else value < realLimit * Nat.pow 10 (-exponent).toNat

end Playstation.Toml
