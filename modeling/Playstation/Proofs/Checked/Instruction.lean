import Playstation.Instruction.Decode
import Playstation.Proofs.Checked.Word

/-!
# Decoding, checked

The fields of an instruction word and the choice of the instruction, with the
positions of every field checked. Fields are only read where the chosen
instruction has them. A shift amount that comes out of a word is below the
width of a word.
-/

namespace Playstation

/-- A field of five bits is below the width of a word. -/
theorem toNat_fiveBits_lt (value : UInt32) (low : Nat) :
    (bits value low (low + 4)).toNat < 32 := by
  have hcount : low + 4 - low + 1 = 5 := by omega
  have hmask : (lowMask 5 : UInt32) = 31 := rfl
  rw [bits, hcount, hmask]
  change (MachineWord.shiftDown value low &&& 31).toNat < 32
  rw [UInt32.toNat_and]
  exact Nat.lt_of_le_of_lt Nat.and_le_right (by decide)

namespace InstructionWord

variable (word : InstructionWord)

/-- Operation. -/
def checkedOp : Option UInt32 := checkedBits word.value 26 31

/-- Function within the first operation. -/
def checkedFunction : Option UInt32 := checkedBits word.value 0 5

/-- Operation of a coprocessor. -/
def checkedCopOp : Option UInt32 := checkedBits word.value 21 25

/-- Immediate value. -/
def checkedImm : Option UInt32 := checkedBits word.value 0 15

/-- Immediate value with its sign extended. -/
def checkedSignedImm : Option UInt32 := do
  let value ← checkedBits word.value 0 15
  return value.toUInt16.toInt16.toInt32.toUInt32

/-- Target of a jump, in words. -/
def checkedTarget : Option UInt32 := checkedBits word.value 0 25

/-- Amount of a shift. -/
def checkedShift : Option UInt32 := checkedBits word.value 6 10

/-- The register whose number stands between two positions. -/
def checkedRegisterAt (low high : Nat) : Option Register := do
  let number ← checkedBits word.value low high
  return .ofNat number.toNat

/-- Destination register. -/
def checkedRd : Option Register := word.checkedRegisterAt 11 15

/-- Target register. -/
def checkedRt : Option Register := word.checkedRegisterAt 16 20

/-- Source register. -/
def checkedRs : Option Register := word.checkedRegisterAt 21 25

/-- Coprocessor register. -/
def checkedCopRegister : Option Nat := do
  let number ← checkedBits word.value 11 15
  return number.toNat

/-- Which sign a comparison with zero asks for. -/
def checkedDecodeSign : Option SignOp := do
  let links ← checkedBits word.value 17 20
  let greaterOrEqual ← checkedBit word.value 16
  return match links == 8, greaterOrEqual with
  | true, true => .bgezal
  | true, false => .bltzal
  | false, true => .bgez
  | false, false => .bltz

/-- A shift by a fixed amount. -/
def checkedDecodeShift (op : ShiftOp) : Option Instruction := do
  return .shift op (← word.checkedRd) (← word.checkedRt) (← word.checkedShift)

/-- A shift by an amount in a register. -/
def checkedDecodeShiftBy (op : ShiftOp) : Option Instruction := do
  return .shiftBy op (← word.checkedRd) (← word.checkedRt) (← word.checkedRs)

/-- An operation on two registers. -/
def checkedDecodeAlu (op : AluOp) : Option Instruction := do
  return .alu op (← word.checkedRd) (← word.checkedRs) (← word.checkedRt)

/-- A multiplication or division. -/
def checkedDecodeMulDiv (op : MulDivOp) : Option Instruction := do
  return .mulDiv op (← word.checkedRs) (← word.checkedRt)

/-- An operation with its immediate value. -/
def checkedDecodeImmediate (op : ImmOp) : Option Instruction := do
  let value ← if op.isSigned then word.checkedSignedImm else word.checkedImm
  return .immediate op (← word.checkedRt) (← word.checkedRs) value

/-- A branch on two registers. -/
def checkedDecodeCompare (op : CompareOp) : Option Instruction := do
  return .compare op (← word.checkedRs) (← word.checkedRt) (← word.checkedSignedImm)

/-- A load. -/
def checkedDecodeLoad (op : LoadOp) : Option Instruction := do
  return .load op (← word.checkedRt) (← word.checkedRs) (← word.checkedSignedImm)

/-- A store. -/
def checkedDecodeStore (op : StoreOp) : Option Instruction := do
  return .store op (← word.checkedRt) (← word.checkedRs) (← word.checkedSignedImm)

/-- Instructions of the first operation. -/
def checkedDecodeFunction : Option Instruction := do
  match (← word.checkedFunction).toNat with
  | 0x00 => word.checkedDecodeShift .sll
  | 0x02 => word.checkedDecodeShift .srl
  | 0x03 => word.checkedDecodeShift .sra
  | 0x04 => word.checkedDecodeShiftBy .sll
  | 0x06 => word.checkedDecodeShiftBy .srl
  | 0x07 => word.checkedDecodeShiftBy .sra
  | 0x08 => return .jr (← word.checkedRs)
  | 0x09 => return .jalr (← word.checkedRd) (← word.checkedRs)
  | 0x0c => return .syscall
  | 0x0d => return .breakpoint
  | 0x10 => return .mfhi (← word.checkedRd)
  | 0x11 => return .mthi (← word.checkedRs)
  | 0x12 => return .mflo (← word.checkedRd)
  | 0x13 => return .mtlo (← word.checkedRs)
  | 0x18 => word.checkedDecodeMulDiv .mult
  | 0x19 => word.checkedDecodeMulDiv .multu
  | 0x1a => word.checkedDecodeMulDiv .div
  | 0x1b => word.checkedDecodeMulDiv .divu
  | 0x20 => word.checkedDecodeAlu .add
  | 0x21 => word.checkedDecodeAlu .addu
  | 0x22 => word.checkedDecodeAlu .sub
  | 0x23 => word.checkedDecodeAlu .subu
  | 0x24 => word.checkedDecodeAlu .and
  | 0x25 => word.checkedDecodeAlu .or
  | 0x26 => word.checkedDecodeAlu .xor
  | 0x27 => word.checkedDecodeAlu .nor
  | 0x2a => word.checkedDecodeAlu .slt
  | 0x2b => word.checkedDecodeAlu .sltu
  | _ => return .illegal

/-- Instructions for the system coprocessor. -/
def checkedDecodeCop0 : Option Instruction := do
  match (← word.checkedCopOp).toNat with
  | 0x00 => return .mfc0 (← word.checkedRt) (← word.checkedCopRegister)
  | 0x04 => return .mtc0 (← word.checkedRt) (← word.checkedCopRegister)
  | 0x10 => if (← word.checkedFunction) = 0x10 then return .rfe else return .illegal
  | _ => return .illegal

/-- The instruction which a word stands for. -/
def checkedDecode : Option Instruction := do
  match (← word.checkedOp).toNat with
  | 0x00 => word.checkedDecodeFunction
  | 0x01 => return .sign (← word.checkedDecodeSign) (← word.checkedRs) (← word.checkedSignedImm)
  | 0x02 => return .j (← word.checkedTarget)
  | 0x03 => return .jal (← word.checkedTarget)
  | 0x04 => word.checkedDecodeCompare .beq
  | 0x05 => word.checkedDecodeCompare .bne
  | 0x06 => return .sign .blez (← word.checkedRs) (← word.checkedSignedImm)
  | 0x07 => return .sign .bgtz (← word.checkedRs) (← word.checkedSignedImm)
  | 0x08 => word.checkedDecodeImmediate .addi
  | 0x09 => word.checkedDecodeImmediate .addiu
  | 0x0a => word.checkedDecodeImmediate .slti
  | 0x0b => word.checkedDecodeImmediate .sltiu
  | 0x0c => word.checkedDecodeImmediate .andi
  | 0x0d => word.checkedDecodeImmediate .ori
  | 0x0e => word.checkedDecodeImmediate .xori
  | 0x0f => return .lui (← word.checkedRt) (← word.checkedImm)
  | 0x10 => word.checkedDecodeCop0
  | 0x11 => return .missingCop .cop1
  | 0x12 => return .gte .cop2 word.value
  | 0x13 => return .missingCop .cop3
  | 0x20 => word.checkedDecodeLoad .lb
  | 0x21 => word.checkedDecodeLoad .lh
  | 0x22 => word.checkedDecodeLoad .lwl
  | 0x23 => word.checkedDecodeLoad .lw
  | 0x24 => word.checkedDecodeLoad .lbu
  | 0x25 => word.checkedDecodeLoad .lhu
  | 0x26 => word.checkedDecodeLoad .lwr
  | 0x28 => word.checkedDecodeStore .sb
  | 0x29 => word.checkedDecodeStore .sh
  | 0x2a => word.checkedDecodeStore .swl
  | 0x2b => word.checkedDecodeStore .sw
  | 0x2e => word.checkedDecodeStore .swr
  | 0x30 => return .missingCop .lwc0
  | 0x31 => return .missingCop .lwc1
  | 0x32 => return .gte .lwc2 word.value
  | 0x33 => return .missingCop .lwc3
  | 0x38 => return .missingCop .swc0
  | 0x39 => return .missingCop .swc1
  | 0x3a => return .gte .swc2 word.value
  | 0x3b => return .missingCop .swc3
  | _ => return .illegal

/-- An operation finds its immediate value in every word. -/
theorem checkedDecodeImmediate_eq (op : ImmOp) :
    word.checkedDecodeImmediate op = some (word.decodeImmediate op) := by
  cases op <;> rfl

/-- Every function of the first operation can be decoded. -/
theorem checkedDecodeFunction_eq : word.checkedDecodeFunction = some word.decodeFunction := by
  have hfunction : word.checkedFunction = some word.function :=
    checkedBits_eq _ (by decide) (by decide)
  rw [checkedDecodeFunction, decodeFunction, hfunction]
  simp only [Option.bind_eq_bind, Option.bind_some]
  generalize word.function.toNat = number
  split
  case h_29 => simp_all
  all_goals rfl

/-- Every operation of the system coprocessor can be decoded. -/
theorem checkedDecodeCop0_eq : word.checkedDecodeCop0 = some word.decodeCop0 := by
  have hop : word.checkedCopOp = some word.copOp := checkedBits_eq _ (by decide) (by decide)
  have hfunction : word.checkedFunction = some word.function :=
    checkedBits_eq _ (by decide) (by decide)
  rw [checkedDecodeCop0, decodeCop0, hop, hfunction]
  simp only [Option.bind_eq_bind, Option.bind_some]
  generalize word.copOp.toNat = number
  split
  · rfl
  · rfl
  · split <;> rfl
  · simp_all

/-- Every word can be decoded. -/
theorem checkedDecode_eq : word.checkedDecode = some word.decode := by
  have hop : word.checkedOp = some word.op := checkedBits_eq _ (by decide) (by decide)
  rw [checkedDecode, decode, hop]
  simp only [Option.bind_eq_bind, Option.bind_some, checkedDecodeFunction_eq,
    checkedDecodeCop0_eq, checkedDecodeImmediate_eq]
  generalize word.op.toNat = number
  split
  case h_41 => simp_all
  all_goals rfl

/-- The first operation shifts by the amount in the word. -/
theorem shift_of_decodeFunction {op : ShiftOp} {rd rt : Register} {amount : UInt32}
    (h : word.decodeFunction = .shift op rd rt amount) : amount = word.shift := by
  rw [decodeFunction] at h
  generalize word.function.toNat = number at h
  split at h
  case h_1 | h_2 | h_3 =>
    injection h with _ _ _ hamount
    exact hamount.symm
  all_goals exact Instruction.noConfusion h

/-- The system coprocessor does not shift. -/
theorem decodeCop0_ne_shift (op : ShiftOp) (rd rt : Register) (amount : UInt32) :
    word.decodeCop0 ≠ .shift op rd rt amount := by
  intro h
  rw [decodeCop0] at h
  split at h
  · exact Instruction.noConfusion h
  · exact Instruction.noConfusion h
  · split at h <;> exact Instruction.noConfusion h
  · exact Instruction.noConfusion h

/-- A decoded shift is by the amount in the word. -/
theorem shift_of_decode {op : ShiftOp} {rd rt : Register} {amount : UInt32}
    (h : word.decode = .shift op rd rt amount) : amount = word.shift := by
  rw [decode] at h
  generalize word.op.toNat = number at h
  split at h
  case h_1 => exact word.shift_of_decodeFunction h
  case h_17 => exact absurd h (word.decodeCop0_ne_shift op rd rt amount)
  all_goals exact Instruction.noConfusion h

/-- A decoded shift is by less than the width of a word. -/
theorem toNat_amount_lt {op : ShiftOp} {rd rt : Register} {amount : UInt32}
    (h : word.decode = .shift op rd rt amount) : amount.toNat < 32 := by
  rw [word.shift_of_decode h]
  exact toNat_fiveBits_lt word.value 6

end InstructionWord

end Playstation
