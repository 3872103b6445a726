/-!
# Hexadecimal text

Addresses and register values are written in lower case hexadecimal, padded on
the left with zeros to a least number of digits. A value which needs more
digits is never cut. Digits are read in either case.
-/

namespace Playstation

/-- The lower case hexadecimal digits of `value`, at least `digits` of them. -/
def hex (digits : Nat) (value : Nat) : String :=
  String.ofList ((Nat.toDigits 16 value).leftpad digits '0')

/-- The digits of `hex` after the mark `0x`. -/
def hexMarked (digits : Nat) (value : Nat) : String :=
  "0x" ++ hex digits value

/-- The value of a digit of any base up to sixteen. -/
def hexDigit? (c : Char) : Option Nat :=
  if '0' ≤ c ∧ c ≤ '9' then some (c.toNat - '0'.toNat)
  else if 'a' ≤ c ∧ c ≤ 'f' then some (c.toNat - 'a'.toNat + 10)
  else if 'A' ≤ c ∧ c ≤ 'F' then some (c.toNat - 'A'.toNat + 10)
  else none

/-- The number written by digits of a base up to sixteen. -/
def ofDigits (base : Nat) (digits : List Char) : Nat :=
  digits.foldl (fun value c => base * value + (hexDigit? c).getD 0) 0

end Playstation
