import Playstation.Instruction.Basic
import Playstation.Width

/-!
# Arithmetic of the processor

The values which instructions compute from their operands. Words stand for
signed numbers in two's complement where an operation asks for that. Sums and
differences wrap around; the trapping operations differ from the wrapping ones
only in that some operands are refused.
-/

namespace Playstation

/-- One for true and zero for false. -/
def flag (condition : Bool) : UInt32 := if condition then 1 else 0

/-- Whether one word is less than another as signed numbers. -/
def signedLess (x y : UInt32) : Bool := x.toInt32 < y.toInt32

/-- Shift a word by an amount below its width. -/
def ShiftOp.apply (op : ShiftOp) (value amount : UInt32) : UInt32 :=
  match op with
  | sll => value <<< amount
  | srl => value >>> amount
  | sra => (value.toInt32 >>> amount.toInt32).toUInt32

/-- The result of an operation on two registers. -/
def AluOp.apply (op : AluOp) (x y : UInt32) : UInt32 :=
  match op with
  | add | addu => x + y
  | sub | subu => x - y
  | and => x &&& y
  | or => x ||| y
  | xor => x ^^^ y
  | nor => ~~~(x ||| y)
  | slt => flag (signedLess x y)
  | sltu => flag (x < y)

/-- Whether a number fits into a word as a signed number. -/
def fitsSigned (value : Int) : Bool := -0x80000000 ≤ value && value ≤ 0x7fffffff

/-- Whether an operation on two registers traps. -/
def AluOp.traps (op : AluOp) (x y : UInt32) : Bool :=
  match op with
  | add => !fitsSigned (x.toInt32.toInt + y.toInt32.toInt)
  | sub => !fitsSigned (x.toInt32.toInt - y.toInt32.toInt)
  | _ => false

/-- The result of an operation on an immediate value. -/
def ImmOp.apply (op : ImmOp) (x value : UInt32) : UInt32 :=
  match op with
  | addi | addiu => x + value
  | slti => flag (signedLess x value)
  | sltiu => flag (x < value)
  | andi => x &&& value
  | ori => x ||| value
  | xori => x ^^^ value

/-- Whether an operation on an immediate value traps. -/
def ImmOp.traps (op : ImmOp) (x value : UInt32) : Bool :=
  match op with
  | addi => !fitsSigned (x.toInt32.toInt + value.toInt32.toInt)
  | _ => false

/-- Two words of result. -/
structure WordPair where
  /-- High word of a product, or remainder. -/
  hi : UInt32
  /-- Low word of a product, or quotient. -/
  lo : UInt32
  deriving DecidableEq

/-- The two words of a double word. -/
def WordPair.ofDouble (value : UInt64) : WordPair := ⟨(value >>> 32).toUInt32, value.toUInt32⟩

/-- The result of a multiplication or division. Dividing by zero is no error:
the remainder is the dividend and the quotient has fixed values. Signed
division goes toward zero, and the one quotient that does not fit wraps. -/
def MulDivOp.apply (op : MulDivOp) (x y : UInt32) : WordPair :=
  match op with
  | mult => .ofDouble (x.toInt32.toInt64 * y.toInt32.toInt64).toUInt64
  | multu => .ofDouble (x.toUInt64 * y.toUInt64)
  | div =>
    if y = 0 then ⟨x, if x.toInt32 < 0 then 1 else 0xffffffff⟩
    else if y = 0xffffffff ∧ x = 0x80000000 then ⟨0, 0x80000000⟩
    else ⟨(x.toInt32 % y.toInt32).toUInt32, (x.toInt32 / y.toInt32).toUInt32⟩
  | divu => if y = 0 then ⟨x, 0xffffffff⟩ else ⟨x % y, x / y⟩

/-- Whether a branch on two registers is taken. -/
def CompareOp.holds (op : CompareOp) (x y : UInt32) : Bool :=
  match op with
  | beq => x == y
  | bne => x != y

/-- Whether a branch on a sign is taken. -/
def SignOp.holds (op : SignOp) (x : UInt32) : Bool :=
  match op with
  | blez => x.toInt32 ≤ 0
  | bgtz => 0 < x.toInt32
  | bltz | bltzal => x.toInt32 < 0
  | bgez | bgezal => 0 ≤ x.toInt32

/-- A byte with its sign extended. -/
def extendByte (value : UInt32) : UInt32 := value.toUInt8.toInt8.toInt32.toUInt32

/-- A halfword with its sign extended. -/
def extendHalf (value : UInt32) : UInt32 := value.toUInt16.toInt16.toInt32.toUInt32

namespace LoadOp

/-- Width of the access. The loads of a misaligned word read the aligned word
around it. -/
def width : LoadOp → Width
  | lb | lbu => .byte
  | lh | lhu => .half
  | lwl | lw | lwr => .word

/-- The address that is read. -/
def place (op : LoadOp) (address : UInt32) : UInt32 :=
  match op with
  | lwl | lwr => address &&& 0xfffffffc
  | _ => address

/-- The value for the register, from the value read at `address` and, for the
loads of a misaligned word, the value `old` it is merged into: the bytes up to
`address` go to the top, or those from `address` on to the bottom. -/
def combine (op : LoadOp) (address old value : UInt32) : UInt32 :=
  let distance := byteShift address
  match op with
  | lb => extendByte value
  | lh => extendHalf value
  | lw | lbu | lhu => value
  | lwl => (old &&& ((0x00ffffff : UInt32) >>> distance)) ||| (value <<< (24 - distance))
  | lwr => (old &&& ((0xffffff00 : UInt32) <<< (24 - distance))) ||| (value >>> distance)

end LoadOp

namespace StoreOp

/-- Width of the access. The stores of a misaligned word write the aligned
word around it. -/
def width : StoreOp → Width
  | sb => .byte
  | sh => .half
  | swl | sw | swr => .word

/-- The address that is written. -/
def place (op : StoreOp) (address : UInt32) : UInt32 :=
  match op with
  | swl | swr => address &&& 0xfffffffc
  | _ => address

/-- Whether the word at the address is read first, to be merged with. -/
def merges : StoreOp → Bool
  | swl | swr => true
  | _ => false

/-- The value for memory, from the register value and, for the stores of a
misaligned word, the word `old` it is merged into: the top goes to the bytes
up to `address`, or the bottom to those from `address` on. -/
def combine (op : StoreOp) (address old value : UInt32) : UInt32 :=
  let distance := byteShift address
  match op with
  | sb => value &&& 0xff
  | sh => value &&& 0xffff
  | sw => value
  | swl => (old &&& ((0xffffff00 : UInt32) <<< distance)) ||| (value >>> (24 - distance))
  | swr => (old &&& ((0x00ffffff : UInt32) >>> (24 - distance))) ||| (value <<< distance)

end StoreOp

end Playstation
