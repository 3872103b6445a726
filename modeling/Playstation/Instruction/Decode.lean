import Playstation.Instruction.Basic

/-!
# Decoding

The operation field selects the instruction; the first operation and the
system coprocessor select further by a second field, and comparisons with zero
by two of their bits. Fields without a meaning for the selected instruction
may hold anything.
-/

namespace Playstation

namespace InstructionWord

/-- Instructions of the first operation, selected by the function field. -/
def decodeFunction (word : InstructionWord) : Instruction :=
  match word.function.toNat with
  | 0x00 => .shift .sll word.rd word.rt word.shift
  | 0x02 => .shift .srl word.rd word.rt word.shift
  | 0x03 => .shift .sra word.rd word.rt word.shift
  | 0x04 => .shiftBy .sll word.rd word.rt word.rs
  | 0x06 => .shiftBy .srl word.rd word.rt word.rs
  | 0x07 => .shiftBy .sra word.rd word.rt word.rs
  | 0x08 => .jr word.rs
  | 0x09 => .jalr word.rd word.rs
  | 0x0c => .syscall
  | 0x0d => .breakpoint
  | 0x10 => .mfhi word.rd
  | 0x11 => .mthi word.rs
  | 0x12 => .mflo word.rd
  | 0x13 => .mtlo word.rs
  | 0x18 => .mulDiv .mult word.rs word.rt
  | 0x19 => .mulDiv .multu word.rs word.rt
  | 0x1a => .mulDiv .div word.rs word.rt
  | 0x1b => .mulDiv .divu word.rs word.rt
  | 0x20 => .alu .add word.rd word.rs word.rt
  | 0x21 => .alu .addu word.rd word.rs word.rt
  | 0x22 => .alu .sub word.rd word.rs word.rt
  | 0x23 => .alu .subu word.rd word.rs word.rt
  | 0x24 => .alu .and word.rd word.rs word.rt
  | 0x25 => .alu .or word.rd word.rs word.rt
  | 0x26 => .alu .xor word.rd word.rs word.rt
  | 0x27 => .alu .nor word.rd word.rs word.rt
  | 0x2a => .alu .slt word.rd word.rs word.rt
  | 0x2b => .alu .sltu word.rd word.rs word.rt
  | _ => .illegal

/-- Which sign a comparison with zero asks for. -/
def decodeSign (word : InstructionWord) : SignOp :=
  match word.links, word.greaterOrEqual with
  | true, true => .bgezal
  | true, false => .bltzal
  | false, true => .bgez
  | false, false => .bltz

/-- Instructions for the system coprocessor. -/
def decodeCop0 (word : InstructionWord) : Instruction :=
  match word.copOp.toNat with
  | 0x00 => .mfc0 word.rt word.copRegister
  | 0x04 => .mtc0 word.rt word.copRegister
  | 0x10 => if word.function = 0x10 then .rfe else .illegal
  | _ => .illegal

/-- An operation with its immediate value. -/
def decodeImmediate (word : InstructionWord) (op : ImmOp) : Instruction :=
  .immediate op word.rt word.rs (if op.isSigned then word.signedImm else word.imm)

/-- The instruction which a word stands for. -/
def decode (word : InstructionWord) : Instruction :=
  match word.op.toNat with
  | 0x00 => word.decodeFunction
  | 0x01 => .sign word.decodeSign word.rs word.signedImm
  | 0x02 => .j word.target
  | 0x03 => .jal word.target
  | 0x04 => .compare .beq word.rs word.rt word.signedImm
  | 0x05 => .compare .bne word.rs word.rt word.signedImm
  | 0x06 => .sign .blez word.rs word.signedImm
  | 0x07 => .sign .bgtz word.rs word.signedImm
  | 0x08 => word.decodeImmediate .addi
  | 0x09 => word.decodeImmediate .addiu
  | 0x0a => word.decodeImmediate .slti
  | 0x0b => word.decodeImmediate .sltiu
  | 0x0c => word.decodeImmediate .andi
  | 0x0d => word.decodeImmediate .ori
  | 0x0e => word.decodeImmediate .xori
  | 0x0f => .lui word.rt word.imm
  | 0x10 => word.decodeCop0
  | 0x11 => .missingCop .cop1
  | 0x12 => .gte .cop2 word.value
  | 0x13 => .missingCop .cop3
  | 0x20 => .load .lb word.rt word.rs word.signedImm
  | 0x21 => .load .lh word.rt word.rs word.signedImm
  | 0x22 => .load .lwl word.rt word.rs word.signedImm
  | 0x23 => .load .lw word.rt word.rs word.signedImm
  | 0x24 => .load .lbu word.rt word.rs word.signedImm
  | 0x25 => .load .lhu word.rt word.rs word.signedImm
  | 0x26 => .load .lwr word.rt word.rs word.signedImm
  | 0x28 => .store .sb word.rt word.rs word.signedImm
  | 0x29 => .store .sh word.rt word.rs word.signedImm
  | 0x2a => .store .swl word.rt word.rs word.signedImm
  | 0x2b => .store .sw word.rt word.rs word.signedImm
  | 0x2e => .store .swr word.rt word.rs word.signedImm
  | 0x30 => .missingCop .lwc0
  | 0x31 => .missingCop .lwc1
  | 0x32 => .gte .lwc2 word.value
  | 0x33 => .missingCop .lwc3
  | 0x38 => .missingCop .swc0
  | 0x39 => .missingCop .swc1
  | 0x3a => .gte .swc2 word.value
  | 0x3b => .missingCop .swc3
  | _ => .illegal

end InstructionWord

end Playstation
