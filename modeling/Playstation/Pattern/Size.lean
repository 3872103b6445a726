import Playstation.Pattern.Normal

/-!
# Sizes of patterns

The size of a pattern is the room which its automata take: one which reads the
bytes of a text forwards and remembers pieces, and one which reads them
backwards. A state takes 32 bytes, and more if there are several ways on. A
pattern with an automaton of more than ten mebibytes is too large.
-/

namespace Playstation.Pattern

/-- The room of a state with a number of ways on. -/
def joinSize (ways : Nat) : Nat := 32 + 4 * ways

/-- The room of a state which looks at a byte, with a number of ranges. -/
def branchSize (ranges : Nat) : Nat := 32 + 8 * ranges

/-- The room of a state with a single way on. -/
def stateSize : Nat := 32

/-- The room of several parts. -/
def totalSize (sizes : List Nat) : Nat := sizes.foldl (· + ·) 0

/-- Ranges of bytes, one for each byte of some characters. -/
abbrev ByteRanges : Type := List (Nat × Nat)

/-- The bytes of the character with a code of a number of bytes. -/
def bytesOf : (count : Nat) → (code : Nat) → List Nat
  | 0, _ => []
  | 1, code => [code]
  | 2, code => [0xc0 + code / 0x40, 0x80 + code % 0x40]
  | 3, code => [0xe0 + code / 0x1000, 0x80 + code / 0x40 % 0x40, 0x80 + code % 0x40]
  | _, code =>
    [0xf0 + code / 0x40000, 0x80 + code / 0x1000 % 0x40, 0x80 + code / 0x40 % 0x40,
      0x80 + code % 0x40]

/-- How many bytes the character with a code has. -/
def byteCount (code : Nat) : Nat :=
  if code < 0x80 then 1 else if code < 0x800 then 2 else if code < 0x10000 then 3 else 4

/-- A code from which on a range of codes has to be cut off, so that all bytes
but the last ones of its characters agree. At every cut either the start or the
end of the range gets even to more bits. -/
def cut? (low high : Nat) : Option Nat :=
  if low < 0xe000 ∧ 0xd800 ≤ high ∧ low < 0xd800 then some 0xd800
  else if low < 0xe000 ∧ 0xe000 ≤ high then some 0xe000
  else
    match [0x80, 0x800, 0x10000].find? fun limit => low < limit && limit ≤ high with
    | some limit => some limit
    | none =>
      if high < 0x80 then none
      else
        [0x40, 0x1000, 0x40000].findSome? fun block =>
          if low / block = high / block then none
          else if low % block ≠ 0 then some ((low / block + 1) * block)
          else if (high + 1) % block ≠ 0 then some (high / block * block)
          else none

/-- The ranges of bytes of the characters with codes in a range, which is cut
no deeper than a count. The codes of no character are left out. -/
def byteRangesOf : (count : Nat) → (low high : Nat) → List ByteRanges
  | 0, _, _ => []
  | count + 1, low, high =>
    match cut? low high with
    | some code => byteRangesOf count low (code - 1) ++ byteRangesOf count code high
    | none =>
      if 0xd800 ≤ low ∧ low < 0xe000 then []
      else
        let bytes := byteCount low
        [(bytesOf bytes low).zip (bytesOf bytes high)]

/-- The ranges of bytes of the characters of a set. -/
def byteRanges (set : CharacterSet) : List ByteRanges :=
  set.flatMap fun range => byteRangesOf 24 range.1 range.2

/-- Lists with the same front side by side, grouped by it. -/
def byFront {α : Type} [BEq α] : List (List α) → List (α × List (List α))
  | [] => []
  | [] :: rest => byFront rest
  | (front :: others) :: rest =>
    match byFront rest with
    | (next, group) :: groups =>
      if next == front then (front, others :: group) :: groups
      else (front, [others]) :: (next, group) :: groups
    | [] => [(front, [others])]

/-- The states which read some ranges of bytes forwards, each of them known by
what is still to be read. -/
def forwardStates : (count : Nat) → List ByteRanges → List (List ByteRanges)
  | 0, _ => []
  | count + 1, rests =>
    rests :: (byFront rests).flatMap fun (_, group) =>
      if group == [[]] then [] else forwardStates count group

/-- The states which read some ranges of bytes backwards, each of them known by
what was read before. -/
def backwardStates (ranges : List ByteRanges) : List ByteRanges :=
  (ranges.flatMap fun bytes =>
    (List.range bytes.length).map fun index => bytes.take (index + 1)).eraseDups

/-- The room for one character of a set. -/
def setSize (backwards : Bool) (set : CharacterSet) : Nat :=
  if set.isPlain then stateSize + branchSize set.length
  else
    let ranges := byteRanges set
    if backwards then
      stateSize + joinSize ranges.length + stateSize * (backwardStates ranges).length
    else
      stateSize +
        totalSize ((forwardStates 4 ranges).eraseDups.map fun rests =>
          branchSize (byFront rests).length)

/-- Words cut at the empty ones. Several of these in front count as one. -/
def chunks (words : List (List Nat)) : List (List (List Nat)) :=
  let words := if words.head? = some [] then [] :: words.dropWhile List.isEmpty else words
  words.splitOnP List.isEmpty

/-- The rests of the words which begin with a byte. -/
def restsAfter (byte : Nat) (words : List (List Nat)) : List (List Nat) :=
  words.filterMap fun word => if word.head? = some byte then some (word.drop 1) else none

/-- The room for a tree which reads one of some words, no deeper than a count.
The tree looks at one byte of all words at a time. -/
def treeSize : (count : Nat) → List (List Nat) → Nat
  | 0, _ => 0
  | count + 1, words =>
    let parts := chunks words
    let branches := (parts.filter (· ≠ [])).map fun part =>
      let bytes := (part.filterMap List.head?).eraseDups
      let room := if bytes.length = 1 then stateSize else branchSize bytes.length
      let subtrees := bytes.map fun byte =>
        let rests := restsAfter byte part
        if rests.all List.isEmpty then 0 else treeSize count rests
      room + totalSize subtrees
    joinSize (branches.length + parts.length - 1) + totalSize branches

/-- The bytes of a pattern which is a literal. -/
def literalBytes? : Pattern → Option (List Nat)
  | .literal text => some (text.flatMap fun c => bytesOf (byteCount c.toNat) c.toNat)
  | _ => none

/-- The room for a pattern several times, by the room for it and whether it
takes characters in any case. -/
def repeatedSize (least : Nat) (most : Option Nat) (nonempty : Bool) (size : Nat) : Nat :=
  match least, most with
  | 0, none => if nonempty then joinSize 2 + size else 2 * joinSize 2 + stateSize + size
  | least, none => least * size + joinSize 2
  | 0, some 1 => joinSize 2 + stateSize + size
  | 0, some most => 2 * stateSize + most * (joinSize 2 + size)
  | least, some most =>
    if least = most then most * size
    else least * size + stateSize + (most - least) * (joinSize 2 + size)

mutual

/-- The room for a pattern in one of its automata. -/
def size (backwards : Bool) : Pattern → Nat
  | .empty | .place _ => stateSize
  | .literal text => stateSize * (String.ofList text).utf8ByteSize
  | .oneOf set => setSize backwards set
  | .captured _ body => size backwards body + if backwards then 0 else 2 * stateSize
  | .repeated least most body =>
    repeatedSize least most ((lengths body).1.any (0 < ·)) (size backwards body)
  | .sequence parts => sizeOfAll backwards parts
  | .choice options =>
    match options.mapM literalBytes? with
    | some words =>
      let words := if backwards then words.map List.reverse else words
      stateSize + treeSize ((words.map List.length).foldl max 0 + 1) words
    | none => stateSize + joinSize options.length + sizeOfAll backwards options

/-- The room for some patterns. -/
def sizeOfAll (backwards : Bool) : List Pattern → Nat
  | [] => 0
  | pattern :: rest => size backwards pattern + sizeOfAll backwards rest

end

/-- The room for the states which skip text before a pattern, and for the one
after it. -/
def frameSize : Nat := joinSize 2 + stateSize + branchSize 1 + stateSize

/-- The largest room that an automaton can take. -/
def sizeLimit : Nat := 0xa00000

/-- Whether an automaton of a pattern would take too much room. The piece which
the whole pattern matches is remembered too. -/
def isTooLarge (backwards : Bool) (pattern : Pattern) : Bool :=
  sizeLimit < frameSize + size backwards (.captured 0 pattern)

end Playstation.Pattern
