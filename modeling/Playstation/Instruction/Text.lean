import Playstation.Hex
import Playstation.Instruction.Fields

/-!
# Assembly text

The text of an instruction word names the operation and its operands. It has its own
table of operations and looks at the fields of the word itself. Offsets and signed
immediate values are decimal, unsigned ones hexadecimal, and jump targets are shown
in bytes.
-/

namespace Playstation

/-- The decimal text of a word read as a signed number. -/
def signedText (value : UInt32) : String := toString value.toInt32.toInt

/-- The text of an operation with its operands after it. -/
def withOperands (operation : String) (operands : List String) : String :=
  operation ++ " " ++ ", ".intercalate operands

/-- The text of an operand in memory. -/
def memoryText (offset : UInt32) (base : Register) : String :=
  signedText offset ++ "(" ++ base.text ++ ")"

/-- The text of a register of the system coprocessor. -/
def copText (register : Nat) : String := "$" ++ toString register

namespace InstructionWord

/-- A shift by a fixed amount. -/
def shiftText (word : InstructionWord) (operation : String) : String :=
  withOperands operation [word.rd.text, word.rt.text, toString word.shift.toNat]

/-- A shift by the low bits of a register. -/
def shiftByText (word : InstructionWord) (operation : String) : String :=
  withOperands operation [word.rd.text, word.rt.text, word.rs.text]

/-- An operation on two registers with a third one for the result. -/
def aluText (word : InstructionWord) (operation : String) : String :=
  withOperands operation [word.rd.text, word.rs.text, word.rt.text]

/-- A multiplication or division. -/
def mulDivText (word : InstructionWord) (operation : String) : String :=
  withOperands operation [word.rs.text, word.rt.text]

/-- An operation on a signed immediate value. -/
def signedImmText (word : InstructionWord) (operation : String) : String :=
  withOperands operation [word.rt.text, word.rs.text, signedText word.signedImm]

/-- An operation on an unsigned immediate value. -/
def immText (word : InstructionWord) (operation : String) : String :=
  withOperands operation [word.rt.text, word.rs.text, hexMarked 1 word.imm.toNat]

/-- A jump to a fixed target. -/
def jumpText (word : InstructionWord) (operation : String) : String :=
  withOperands operation [hex 8 (word.target <<< 2).toNat]

/-- A branch on two registers. -/
def compareText (word : InstructionWord) (operation : String) : String :=
  withOperands operation [word.rs.text, word.rt.text, signedText word.signedImm]

/-- A branch on the sign of a register. -/
def signText (word : InstructionWord) (operation : String) : String :=
  withOperands operation [word.rs.text, signedText word.signedImm]

/-- A load or a store. -/
def accessText (word : InstructionWord) (operation : String) : String :=
  withOperands operation [word.rt.text, memoryText word.signedImm word.rs]

/-- A move to or from a register of the system coprocessor. -/
def moveText (word : InstructionWord) (operation : String) : String :=
  withOperands operation [word.rt.text, copText word.copRegister]

/-- A load or store of a register of some coprocessor. -/
def copAccessText (word : InstructionWord) (operation : String) : String :=
  operation ++ toString (word.op &&& 3).toNat

/-- The text of a word of the first operation. -/
def functionText (word : InstructionWord) : String :=
  match word.function.toNat with
  | 0x00 => if word.value = 0 then "nop" else word.shiftText "sll"
  | 0x02 => word.shiftText "srl"
  | 0x03 => word.shiftText "sra"
  | 0x04 => word.shiftByText "sllv"
  | 0x06 => word.shiftByText "srlv"
  | 0x07 => word.shiftByText "srav"
  | 0x08 => withOperands "jr" [word.rs.text]
  | 0x09 => withOperands "jalr" [word.rd.text, word.rs.text]
  | 0x0c => "syscall"
  | 0x0d => "break"
  | 0x10 => withOperands "mfhi" [word.rd.text]
  | 0x11 => withOperands "mthi" [word.rs.text]
  | 0x12 => withOperands "mflo" [word.rd.text]
  | 0x13 => withOperands "mtlo" [word.rs.text]
  | 0x18 => word.mulDivText "mult"
  | 0x19 => word.mulDivText "multu"
  | 0x1a => word.mulDivText "div"
  | 0x1b => word.mulDivText "divu"
  | 0x20 => word.aluText "add"
  | 0x21 => word.aluText "addu"
  | 0x22 => word.aluText "sub"
  | 0x23 => word.aluText "subu"
  | 0x24 => word.aluText "and"
  | 0x25 => word.aluText "or"
  | 0x26 => word.aluText "xor"
  | 0x27 => word.aluText "nor"
  | 0x2a => word.aluText "slt"
  | 0x2b => word.aluText "sltu"
  | _ => "illegal"

/-- The name of a comparison with zero. -/
def signName (word : InstructionWord) : String :=
  match word.links, word.greaterOrEqual with
  | true, true => "bgezal"
  | true, false => "bltzal"
  | false, true => "bgez"
  | false, false => "bltz"

/-- The text of a word for the system coprocessor. -/
def cop0Text (word : InstructionWord) : String :=
  match word.copOp.toNat with
  | 0x00 => word.moveText "mfc0"
  | 0x04 => word.moveText "mtc0"
  | 0x10 => if word.function = 0x10 then "rfe" else "illegal"
  | _ => "illegal"

/-- The assembly text of a word. -/
def text (word : InstructionWord) : String :=
  match word.op.toNat with
  | 0x00 => word.functionText
  | 0x01 => word.signText word.signName
  | 0x02 => word.jumpText "j"
  | 0x03 => word.jumpText "jal"
  | 0x04 => word.compareText "beq"
  | 0x05 => word.compareText "bne"
  | 0x06 => word.signText "blez"
  | 0x07 => word.signText "bgtz"
  | 0x08 => word.signedImmText "addi"
  | 0x09 => word.signedImmText "addiu"
  | 0x0a => word.signedImmText "slti"
  | 0x0b => word.signedImmText "sltiu"
  | 0x0c => word.immText "andi"
  | 0x0d => word.immText "ori"
  | 0x0e => word.immText "xori"
  | 0x0f => withOperands "lui" [word.rt.text, hexMarked 1 word.imm.toNat]
  | 0x10 => word.cop0Text
  | 0x11 => "cop1"
  | 0x12 => withOperands "cop2" [hex 7 (bits word.value 0 24).toNat]
  | 0x13 => "cop3"
  | 0x20 => word.accessText "lb"
  | 0x21 => word.accessText "lh"
  | 0x22 => word.accessText "lwl"
  | 0x23 => word.accessText "lw"
  | 0x24 => word.accessText "lbu"
  | 0x25 => word.accessText "lhu"
  | 0x26 => word.accessText "lwr"
  | 0x28 => word.accessText "sb"
  | 0x29 => word.accessText "sh"
  | 0x2a => word.accessText "swl"
  | 0x2b => word.accessText "sw"
  | 0x2e => word.accessText "swr"
  | 0x30 | 0x31 | 0x32 | 0x33 => word.copAccessText "lwc"
  | 0x38 | 0x39 | 0x3a | 0x3b => word.copAccessText "swc"
  | _ => "illegal"

end InstructionWord

end Playstation
