import Playstation.Instruction.Fields

/-!
# Instructions

The instructions of the processor, grouped by what they do. A word is decoded
for execution; its assembly text is written from the fields of the word. Immediate
values and offsets are kept extended to 32 bits the way the instruction uses them.
-/

namespace Playstation

/-- The ways to shift a word. -/
inductive ShiftOp where
  /-- Up. -/
  | sll
  /-- Down, filling with zeros. -/
  | srl
  /-- Down, filling with the sign. -/
  | sra
  deriving DecidableEq

/-- Operations on two registers. -/
inductive AluOp where
  /-- Sum, trapping on signed overflow. -/
  | add
  /-- Sum. -/
  | addu
  /-- Difference, trapping on signed overflow. -/
  | sub
  /-- Difference. -/
  | subu
  /-- Conjunction. -/
  | and
  /-- Disjunction. -/
  | or
  /-- Exclusive disjunction. -/
  | xor
  /-- Complement of the disjunction. -/
  | nor
  /-- Signed comparison. -/
  | slt
  /-- Unsigned comparison. -/
  | sltu
  deriving DecidableEq

/-- Operations on a register and an immediate value. -/
inductive ImmOp where
  /-- Sum, trapping on signed overflow. -/
  | addi
  /-- Sum. -/
  | addiu
  /-- Signed comparison. -/
  | slti
  /-- Unsigned comparison. -/
  | sltiu
  /-- Conjunction. -/
  | andi
  /-- Disjunction. -/
  | ori
  /-- Exclusive disjunction. -/
  | xori
  deriving DecidableEq

/-- Whether an operation takes its immediate value with the sign extended. -/
def ImmOp.isSigned : ImmOp → Bool
  | addi | addiu | slti | sltiu => true
  | andi | ori | xori => false

/-- Operations whose result is two words. -/
inductive MulDivOp where
  /-- Signed product. -/
  | mult
  /-- Unsigned product. -/
  | multu
  /-- Signed quotient and remainder. -/
  | div
  /-- Unsigned quotient and remainder. -/
  | divu
  deriving DecidableEq

/-- Conditions on two registers. -/
inductive CompareOp where
  /-- Equal. -/
  | beq
  /-- Different. -/
  | bne
  deriving DecidableEq

/-- Conditions on the sign of one register. -/
inductive SignOp where
  /-- At most zero. -/
  | blez
  /-- More than zero. -/
  | bgtz
  /-- Less than zero. -/
  | bltz
  /-- At least zero. -/
  | bgez
  /-- Less than zero, writing the return address. -/
  | bltzal
  /-- At least zero, writing the return address. -/
  | bgezal
  deriving DecidableEq

/-- Whether a condition also writes the return address. -/
def SignOp.links : SignOp → Bool
  | bltzal | bgezal => true
  | _ => false

/-- Ways to load from memory. -/
inductive LoadOp where
  /-- Byte with its sign extended. -/
  | lb
  /-- Halfword with its sign extended. -/
  | lh
  /-- High bytes of a misaligned word. -/
  | lwl
  /-- Word. -/
  | lw
  /-- Byte. -/
  | lbu
  /-- Halfword. -/
  | lhu
  /-- Low bytes of a misaligned word. -/
  | lwr
  deriving DecidableEq

/-- Ways to store to memory. -/
inductive StoreOp where
  /-- Byte. -/
  | sb
  /-- Halfword. -/
  | sh
  /-- High bytes of a misaligned word. -/
  | swl
  /-- Word. -/
  | sw
  /-- Low bytes of a misaligned word. -/
  | swr
  deriving DecidableEq

/-- Operations for the geometry coprocessor. -/
inductive GteOp where
  /-- An operation of the coprocessor. -/
  | cop2
  /-- Load of a coprocessor register. -/
  | lwc2
  /-- Store of a coprocessor register. -/
  | swc2
  deriving DecidableEq

/-- Operations for coprocessors which do not exist. -/
inductive MissingCopOp where
  /-- An operation of the first coprocessor. -/
  | cop1
  /-- An operation of the third coprocessor. -/
  | cop3
  /-- Load of a register of coprocessor 0. -/
  | lwc0
  /-- Load of a register of coprocessor 1. -/
  | lwc1
  /-- Load of a register of coprocessor 3. -/
  | lwc3
  /-- Store of a register of coprocessor 0. -/
  | swc0
  /-- Store of a register of coprocessor 1. -/
  | swc1
  /-- Store of a register of coprocessor 3. -/
  | swc3
  deriving DecidableEq

/-- An instruction. -/
inductive Instruction where
  /-- Shift `rt` by a fixed amount into `rd`. -/
  | shift (op : ShiftOp) (rd rt : Register) (amount : UInt32)
  /-- Shift `rt` by the low bits of `rs` into `rd`. -/
  | shiftBy (op : ShiftOp) (rd rt rs : Register)
  /-- Combine `rs` and `rt` into `rd`. -/
  | alu (op : AluOp) (rd rs rt : Register)
  /-- Combine `rs` and an immediate value into `rt`. -/
  | immediate (op : ImmOp) (rt rs : Register) (value : UInt32)
  /-- Put a value into the upper half of `rt`. -/
  | lui (rt : Register) (value : UInt32)
  /-- Multiply or divide `rs` and `rt`. -/
  | mulDiv (op : MulDivOp) (rs rt : Register)
  /-- Read the high result word. -/
  | mfhi (rd : Register)
  /-- Write the high result word. -/
  | mthi (rs : Register)
  /-- Read the low result word. -/
  | mflo (rd : Register)
  /-- Write the low result word. -/
  | mtlo (rs : Register)
  /-- Jump within the current 256 MB. -/
  | j (target : UInt32)
  /-- Jump within the current 256 MB, writing the return address. -/
  | jal (target : UInt32)
  /-- Jump to the address in `rs`. -/
  | jr (rs : Register)
  /-- Jump to the address in `rs`, writing the return address to `rd`. -/
  | jalr (rd rs : Register)
  /-- Branch on two registers. -/
  | compare (op : CompareOp) (rs rt : Register) (offset : UInt32)
  /-- Branch on a sign. -/
  | sign (op : SignOp) (rs : Register) (offset : UInt32)
  /-- Load `rt` from an offset to `base`. -/
  | load (op : LoadOp) (rt base : Register) (offset : UInt32)
  /-- Store `rt` at an offset to `base`. -/
  | store (op : StoreOp) (rt base : Register) (offset : UInt32)
  /-- Read a register of the system coprocessor. -/
  | mfc0 (rt : Register) (register : Nat)
  /-- Write a register of the system coprocessor. -/
  | mtc0 (rt : Register) (register : Nat)
  /-- Return from an exception. -/
  | rfe
  /-- Raise a system call. -/
  | syscall
  /-- Raise a breakpoint. -/
  | breakpoint
  /-- Use the geometry coprocessor; the word is kept for the report that it is
  not supported. -/
  | gte (op : GteOp) (word : UInt32)
  /-- Use a coprocessor that does not exist. -/
  | missingCop (op : MissingCopOp)
  /-- The word is no instruction. -/
  | illegal
  deriving DecidableEq

end Playstation
