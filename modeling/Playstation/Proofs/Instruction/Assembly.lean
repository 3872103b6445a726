import Playstation.Instruction.Decode
import Playstation.Instruction.Text
import Playstation.Proofs.Text

/-!
# Reading assembly text

There are two tables of operations: words are decoded by the one, and their text is
written by the other. Here the instruction that a word is decoded to gets a text, too,
and the two tables agree if this is the text of the word, which it is for every word but
zero.

The text of an instruction falls into the name of its operation and its operands.
No two operations have the same name, and the operation says how each operand is
to be read. So an instruction is read back from its text, with two exceptions: the
upper bits of the target of a jump, which are lost in execution too, and what a
word for the geometry coprocessor has besides the bits that are shown.
-/

namespace Playstation

section Names

/-- The name of a shift by a fixed amount. -/
def ShiftOp.text : ShiftOp → String
  | sll => "sll"
  | srl => "srl"
  | sra => "sra"

/-- The name of an operation on two registers. -/
def AluOp.text : AluOp → String
  | add => "add"
  | addu => "addu"
  | sub => "sub"
  | subu => "subu"
  | and => "and"
  | or => "or"
  | xor => "xor"
  | nor => "nor"
  | slt => "slt"
  | sltu => "sltu"

/-- The name of an operation on an immediate value. -/
def ImmOp.text : ImmOp → String
  | addi => "addi"
  | addiu => "addiu"
  | slti => "slti"
  | sltiu => "sltiu"
  | andi => "andi"
  | ori => "ori"
  | xori => "xori"

/-- The name of a multiplication or division. -/
def MulDivOp.text : MulDivOp → String
  | mult => "mult"
  | multu => "multu"
  | div => "div"
  | divu => "divu"

/-- The name of a branch on two registers. -/
def CompareOp.text : CompareOp → String
  | beq => "beq"
  | bne => "bne"

/-- The name of a branch on a sign. -/
def SignOp.text : SignOp → String
  | blez => "blez"
  | bgtz => "bgtz"
  | bltz => "bltz"
  | bgez => "bgez"
  | bltzal => "bltzal"
  | bgezal => "bgezal"

/-- The name of a load. -/
def LoadOp.text : LoadOp → String
  | lb => "lb"
  | lh => "lh"
  | lwl => "lwl"
  | lw => "lw"
  | lbu => "lbu"
  | lhu => "lhu"
  | lwr => "lwr"

/-- The name of a store. -/
def StoreOp.text : StoreOp → String
  | sb => "sb"
  | sh => "sh"
  | swl => "swl"
  | sw => "sw"
  | swr => "swr"

/-- The name of an operation for the geometry coprocessor. -/
def GteOp.text : GteOp → String
  | cop2 => "cop2"
  | lwc2 => "lwc2"
  | swc2 => "swc2"

/-- The name of an operation for a coprocessor that does not exist. -/
def MissingCopOp.text : MissingCopOp → String
  | cop1 => "cop1"
  | cop3 => "cop3"
  | lwc0 => "lwc0"
  | lwc1 => "lwc1"
  | lwc3 => "lwc3"
  | swc0 => "swc0"
  | swc1 => "swc1"
  | swc3 => "swc3"

end Names

/-- The operation of an instruction, without its operands. -/
inductive Mnemonic where
  /-- Shift by a fixed amount. -/
  | shift (op : ShiftOp)
  /-- Shift by the low bits of a register. -/
  | shiftBy (op : ShiftOp)
  /-- Combine two registers. -/
  | alu (op : AluOp)
  /-- Combine a register and an immediate value. -/
  | immediate (op : ImmOp)
  /-- Put a value into the upper half of a register. -/
  | lui
  /-- Multiply or divide. -/
  | mulDiv (op : MulDivOp)
  /-- Read the high result word. -/
  | mfhi
  /-- Write the high result word. -/
  | mthi
  /-- Read the low result word. -/
  | mflo
  /-- Write the low result word. -/
  | mtlo
  /-- Jump. -/
  | j
  /-- Jump, writing the return address. -/
  | jal
  /-- Jump to the address in a register. -/
  | jr
  /-- Jump to the address in a register, writing the return address. -/
  | jalr
  /-- Branch on two registers. -/
  | compare (op : CompareOp)
  /-- Branch on a sign. -/
  | sign (op : SignOp)
  /-- Load a register. -/
  | load (op : LoadOp)
  /-- Store a register. -/
  | store (op : StoreOp)
  /-- Read a register of the system coprocessor. -/
  | mfc0
  /-- Write a register of the system coprocessor. -/
  | mtc0
  /-- Return from an exception. -/
  | rfe
  /-- Raise a system call. -/
  | syscall
  /-- Raise a breakpoint. -/
  | breakpoint
  /-- Use the geometry coprocessor. -/
  | gte (op : GteOp)
  /-- Use a coprocessor that does not exist. -/
  | missingCop (op : MissingCopOp)
  /-- No instruction. -/
  | illegal
  deriving DecidableEq

namespace Mnemonic

/-- The name of an operation. -/
def text : Mnemonic → String
  | shift op => op.text
  | shiftBy op => op.text ++ "v"
  | alu op => op.text
  | immediate op => op.text
  | lui => "lui"
  | mulDiv op => op.text
  | mfhi => "mfhi"
  | mthi => "mthi"
  | mflo => "mflo"
  | mtlo => "mtlo"
  | j => "j"
  | jal => "jal"
  | jr => "jr"
  | jalr => "jalr"
  | compare op => op.text
  | sign op => op.text
  | load op => op.text
  | store op => op.text
  | mfc0 => "mfc0"
  | mtc0 => "mtc0"
  | rfe => "rfe"
  | syscall => "syscall"
  | breakpoint => "break"
  | gte op => op.text
  | missingCop op => op.text
  | illegal => "illegal"

/-- Every operation. -/
def all : List Mnemonic :=
  [lui, mfhi, mthi, mflo, mtlo, j, jal, jr, jalr, mfc0, mtc0, rfe, syscall, breakpoint,
    illegal] ++
  [.sll, .srl, .sra].flatMap (fun op => [shift op, shiftBy op]) ++
  [.add, .addu, .sub, .subu, .and, .or, .xor, .nor, .slt, .sltu].map alu ++
  [.addi, .addiu, .slti, .sltiu, .andi, .ori, .xori].map immediate ++
  [.mult, .multu, .div, .divu].map mulDiv ++
  [.beq, .bne].map compare ++
  [.blez, .bgtz, .bltz, .bgez, .bltzal, .bgezal].map sign ++
  [.lb, .lh, .lwl, .lw, .lbu, .lhu, .lwr].map load ++
  [.sb, .sh, .swl, .sw, .swr].map store ++
  [.cop2, .lwc2, .swc2].map gte ++
  [.cop1, .cop3, .lwc0, .lwc1, .lwc3, .swc0, .swc1, .swc3].map missingCop

/-- The operation with a name. -/
def ofText? (name : String) : Option Mnemonic := all.find? (·.text = name)

/-- There are no other operations. -/
theorem mem_all (mnemonic : Mnemonic) : mnemonic ∈ all := by
  cases mnemonic with
  | shift op | shiftBy op | alu op | immediate op | mulDiv op | compare op | sign op | load op
  | store op | gte op | missingCop op => cases op <;> decide
  | _ => decide

/-- The names of the operations differ. -/
theorem ofText?_text (mnemonic : Mnemonic) : ofText? mnemonic.text = some mnemonic := by
  have hall : ∀ mnemonic ∈ all, ofText? mnemonic.text = some mnemonic := by decide +kernel
  exact hall mnemonic mnemonic.mem_all

/-- Each of them is one word. -/
theorem isWord_text (mnemonic : Mnemonic) : IsWord mnemonic.text := by
  have hall : ∀ mnemonic ∈ all, IsWord mnemonic.text := by decide +kernel
  exact hall mnemonic mnemonic.mem_all

end Mnemonic

section Operands

/-- The register with a name. -/
def Register.ofText (name : String) : Register :=
  ((List.finRange 32).find? fun register => Register.text register = name).getD zero

/-- The word which is written in decimal. -/
def decimalOfText (text : String) : UInt32 := .ofNat (ofDigits 10 text.toList)

/-- The word which is written in hexadecimal. -/
def hexOfText (text : String) : UInt32 := .ofNat (ofDigits 16 text.toList)

/-- The word which is written in hexadecimal with the mark. -/
def markedOfText (text : String) : UInt32 := .ofNat (ofDigits 16 (text.toList.drop 2))

/-- The word which is written as a signed number. -/
def signedOfText (text : String) : UInt32 :=
  match text.toList with
  | '-' :: digits => -.ofNat (ofDigits 10 digits)
  | digits => .ofNat (ofDigits 10 digits)

/-- The immediate value which is written for an operation. -/
def ImmOp.valueOfText (op : ImmOp) (text : String) : UInt32 :=
  if op.isSigned then signedOfText text else markedOfText text

/-- The text of the immediate value of an operation. -/
def ImmOp.valueText (op : ImmOp) (value : UInt32) : String :=
  if op.isSigned then signedText value else hexMarked 1 value.toNat

/-- The number of the register of the system coprocessor that is written. -/
def copOfText (text : String) : Nat := ofDigits 10 (text.toList.drop 1)

/-- A register is read back from its name. -/
theorem Register.ofText_text (register : Register) :
    ofText (Register.text register) = register := by
  have hall : ∀ register : Register, ofText (Register.text register) = register := by
    decide +kernel
  exact hall register

/-- The name of a register is a word. -/
theorem Register.words_text (register : Register) :
    words register.text = [register.text] := by
  have hall : ∀ register : Register, IsWord register.text := by decide +kernel
  exact words_of_isWord (hall register)

/-- A decimal number is read back. -/
theorem decimalOfText_toString (value : UInt32) :
    decimalOfText (toString value.toNat) = value := by
  rw [decimalOfText, ofDigits_toString, UInt32.ofNat_toNat]

/-- A decimal number is a word. -/
theorem words_toString (n : Nat) : words (toString n) = [toString n] :=
  words_of_isWord (isWord_toString n)

/-- A hexadecimal number is read back. -/
theorem hexOfText_hex (count : Nat) (value : UInt32) :
    hexOfText (hex count value.toNat) = value := by
  rw [hexOfText, ofDigits_hex, UInt32.ofNat_toNat]

/-- A hexadecimal number is a word. -/
theorem words_hex (count n : Nat) : words (hex count n) = [hex count n] :=
  words_of_isWord (isWord_hex count n)

/-- A hexadecimal number with its mark is read back. -/
theorem markedOfText_hexMarked (value : UInt32) :
    markedOfText (hexMarked 1 value.toNat) = value := by
  rw [markedOfText, ofDigits_hexMarked, UInt32.ofNat_toNat]

/-- It is a word with the mark, too. -/
theorem words_hexMarked (count n : Nat) : words (hexMarked count n) = [hexMarked count n] :=
  words_of_isWord (isWord_hexMarked count n)

/-- A signed number is read back. -/
theorem signedOfText_signedText (value : UInt32) :
    signedOfText (signedText value) = value := by
  have hvalue : (Int32.ofInt value.toInt32.toInt).toUInt32 = value := by
    rw [Int32.ofInt_toInt, UInt32.toUInt32_toInt32]
  rw [signedText]
  cases hsigned : value.toInt32.toInt with
  | ofNat n =>
    have hdigits : ∀ c ∈ (toString n).toList, c ≠ '-' := by
      rw [Nat.toString_eq_ofList_toDigits, String.toList_ofList]
      exact forall_mem_toDigits (by decide) (by decide) n
    have hread : signedOfText (toString n) = .ofNat (ofDigits 10 (toString n).toList) := by
      rw [signedOfText]
      split
      · next digits hminus => exact absurd rfl (hdigits '-' (by rw [hminus]; exact .head _))
      · rfl
    rw [hsigned, Int.ofNat_eq_natCast, Int32.ofInt_eq_ofNat, Int32.toUInt32_ofNat'] at hvalue
    rw [← hvalue]
    exact hread.trans (congrArg UInt32.ofNat (ofDigits_toString n))
  | negSucc n =>
    have hread : signedOfText ("-" ++ toString (n + 1)) =
        -.ofNat (ofDigits 10 (toString (n + 1)).toList) := by
      have hsign : ("-" ++ toString (n + 1)).toList = '-' :: (toString (n + 1)).toList :=
        String.toList_append
      rw [signedOfText, hsign]
      rfl
    rw [hsigned, Int.negSucc_eq, Int32.ofInt_neg, ← Int.natCast_succ, Int32.ofInt_eq_ofNat,
      Int32.toUInt32_neg, Int32.toUInt32_ofNat'] at hvalue
    rw [← hvalue]
    exact hread.trans (congrArg (fun n => -UInt32.ofNat n) (ofDigits_toString (n + 1)))

/-- A signed number is a word. -/
theorem words_signedText (value : UInt32) :
    words (signedText value) = [signedText value] := by
  rw [signedText]
  apply words_of_isWord
  cases value.toInt32.toInt with
  | ofNat n => exact isWord_toString n
  | negSucc n => exact isWord_append (by decide) (isWord_toString (n + 1))

/-- An immediate value is read back. -/
theorem ImmOp.valueOfText_valueText (op : ImmOp) (value : UInt32) :
    op.valueOfText (op.valueText value) = value := by
  rw [valueOfText, valueText]
  split
  · exact signedOfText_signedText value
  · exact markedOfText_hexMarked value

/-- An immediate value is a word. -/
theorem words_valueText (op : ImmOp) (value : UInt32) :
    words (op.valueText value) = [op.valueText value] := by
  rw [ImmOp.valueText]
  split
  · exact words_signedText value
  · exact words_hexMarked _ _

/-- An operand in memory is two words. -/
theorem words_memoryText (offset : UInt32) (base : Register) :
    words (memoryText offset base) = [signedText offset, base.text] := by
  rw [memoryText, words_append_brackets, words_signedText, Register.words_text]
  rfl

/-- The number of a register of the system coprocessor is read back. -/
theorem copOfText_copText (register : Nat) :
    copOfText (copText register) = register := by
  have hmark : (copText register).toList = ['$'] ++ (toString register).toList :=
    String.toList_append
  rw [copOfText, hmark]
  exact ofDigits_toString register

/-- A register of the system coprocessor is a word. -/
theorem words_copText (register : Nat) :
    words (copText register) = [copText register] :=
  words_of_isWord (isWord_append (by decide) (isWord_toString register))

end Operands

namespace Instruction

/-- The operation of an instruction. -/
def mnemonic : Instruction → Mnemonic
  | shift op .. => .shift op
  | shiftBy op .. => .shiftBy op
  | alu op .. => .alu op
  | immediate op .. => .immediate op
  | lui .. => .lui
  | mulDiv op .. => .mulDiv op
  | mfhi _ => .mfhi
  | mthi _ => .mthi
  | mflo _ => .mflo
  | mtlo _ => .mtlo
  | j _ => .j
  | jal _ => .jal
  | jr _ => .jr
  | jalr .. => .jalr
  | compare op .. => .compare op
  | sign op .. => .sign op
  | load op .. => .load op
  | store op .. => .store op
  | mfc0 .. => .mfc0
  | mtc0 .. => .mtc0
  | rfe => .rfe
  | syscall => .syscall
  | breakpoint => .breakpoint
  | gte op _ => .gte op
  | missingCop op => .missingCop op
  | illegal => .illegal

/-- The texts of the operands of an instruction. -/
def operands : Instruction → List String
  | shift _ rd rt amount => [rd.text, rt.text, toString amount.toNat]
  | shiftBy _ rd rt rs => [rd.text, rt.text, rs.text]
  | alu _ rd rs rt => [rd.text, rs.text, rt.text]
  | immediate op rt rs value => [rt.text, rs.text, op.valueText value]
  | lui rt value => [rt.text, hexMarked 1 value.toNat]
  | mulDiv _ rs rt => [rs.text, rt.text]
  | mfhi register | mthi register | mflo register | mtlo register | jr register => [register.text]
  | j target | jal target => [hex 8 (target <<< 2).toNat]
  | jalr rd rs => [rd.text, rs.text]
  | compare _ rs rt offset => [rs.text, rt.text, signedText offset]
  | sign _ rs offset => [rs.text, signedText offset]
  | load _ rt base offset | store _ rt base offset => [rt.text, memoryText offset base]
  | mfc0 rt register | mtc0 rt register => [rt.text, copText register]
  | gte .cop2 word => [hex 7 (bits word 0 24).toNat]
  | rfe | syscall | breakpoint | gte .. | missingCop _ | illegal => []

/-- The text of an instruction: the name of its operation, with the operands after it if there
are any. -/
def text (instruction : Instruction) : String :=
  match instruction.operands with
  | [] => instruction.mnemonic.text
  | operands => withOperands instruction.mnemonic.text operands

/-- The instruction with an operation and the words of its operands. -/
def ofOperands? : Mnemonic → List String → Option Instruction
  | .shift op, [rd, rt, amount] =>
    some (shift op (.ofText rd) (.ofText rt) (decimalOfText amount))
  | .shiftBy op, [rd, rt, rs] => some (shiftBy op (.ofText rd) (.ofText rt) (.ofText rs))
  | .alu op, [rd, rs, rt] => some (alu op (.ofText rd) (.ofText rs) (.ofText rt))
  | .immediate op, [rt, rs, value] =>
    some (immediate op (.ofText rt) (.ofText rs) (op.valueOfText value))
  | .lui, [rt, value] => some (lui (.ofText rt) (markedOfText value))
  | .mulDiv op, [rs, rt] => some (mulDiv op (.ofText rs) (.ofText rt))
  | .mfhi, [rd] => some (mfhi (.ofText rd))
  | .mthi, [rs] => some (mthi (.ofText rs))
  | .mflo, [rd] => some (mflo (.ofText rd))
  | .mtlo, [rs] => some (mtlo (.ofText rs))
  | .j, [address] => some (j (hexOfText address >>> 2))
  | .jal, [address] => some (jal (hexOfText address >>> 2))
  | .jr, [rs] => some (jr (.ofText rs))
  | .jalr, [rd, rs] => some (jalr (.ofText rd) (.ofText rs))
  | .compare op, [rs, rt, offset] =>
    some (compare op (.ofText rs) (.ofText rt) (signedOfText offset))
  | .sign op, [rs, offset] => some (sign op (.ofText rs) (signedOfText offset))
  | .load op, [rt, offset, base] =>
    some (load op (.ofText rt) (.ofText base) (signedOfText offset))
  | .store op, [rt, offset, base] =>
    some (store op (.ofText rt) (.ofText base) (signedOfText offset))
  | .mfc0, [rt, register] => some (mfc0 (.ofText rt) (copOfText register))
  | .mtc0, [rt, register] => some (mtc0 (.ofText rt) (copOfText register))
  | .rfe, [] => some rfe
  | .syscall, [] => some syscall
  | .breakpoint, [] => some breakpoint
  | .gte .cop2, [word] => some (gte .cop2 (hexOfText word))
  | .gte op, [] => some (gte op 0)
  | .missingCop op, [] => some (missingCop op)
  | .illegal, [] => some illegal
  | _, _ => none

/-- The instruction with a text. -/
def ofText? (text : String) : Option Instruction :=
  match words text with
  | name :: operands => (Mnemonic.ofText? name).bind (ofOperands? · operands)
  | [] => none

/-- The instruction as far as its text shows it. -/
def shown : Instruction → Instruction
  | j target => j (target <<< 2 >>> 2)
  | jal target => jal (target <<< 2 >>> 2)
  | gte .cop2 word => gte .cop2 (bits word 0 24)
  | gte op _ => gte op 0
  | instruction => instruction

/-- The words of the text are the name and those of the operands. -/
theorem words_text (instruction : Instruction) :
    words instruction.text = instruction.mnemonic.text :: instruction.operands.flatMap words := by
  have hname := words_of_isWord instruction.mnemonic.isWord_text
  rw [text]
  cases instruction.operands with
  | nil => exact hname
  | cons first rest =>
    dsimp only
    rw [withOperands, words_append_blank, words_intercalate, hname]
    rfl

/-- The operands are read back. -/
theorem ofOperands?_operands (instruction : Instruction) :
    ofOperands? instruction.mnemonic (instruction.operands.flatMap words) =
      some instruction.shown := by
  cases instruction with
  | gte op =>
    cases op with
    | cop2 =>
      simp only [mnemonic, operands, List.flatMap_cons, List.flatMap_nil, words_hex,
        List.append_nil, ofOperands?, hexOfText_hex, shown]
    | lwc2 | swc2 => rfl
  | _ =>
    simp only [mnemonic, operands, List.flatMap_cons, List.flatMap_nil, List.cons_append,
      List.nil_append, List.append_nil, Register.words_text, words_toString, words_hex,
      words_hexMarked, words_signedText, words_valueText, words_memoryText, words_copText,
      ofOperands?, Register.ofText_text, decimalOfText_toString, hexOfText_hex,
      markedOfText_hexMarked, signedOfText_signedText, ImmOp.valueOfText_valueText,
      copOfText_copText, shown]

/-- The text of an instruction is read back as far as it shows the instruction. -/
theorem ofText?_text (instruction : Instruction) :
    ofText? instruction.text = some instruction.shown := by
  rw [ofText?, words_text]
  dsimp only
  rw [Mnemonic.ofText?_text, Option.bind_some, ofOperands?_operands]

example : ofText? "lw $t0, -4($sp)" = some (.load .lw 8 29 0xfffffffc) := by decide +kernel

/-- No instruction has the text of the word zero. -/
theorem text_ne_nop (instruction : Instruction) : instruction.text ≠ "nop" := by
  intro h
  have hnone : ofText? "nop" = none := by decide +kernel
  rw [← h, ofText?_text] at hnone
  cases hnone

end Instruction

namespace InstructionWord

variable {word : InstructionWord}

/-- Both tables tell the functions of the first operation alike. -/
theorem functionText_eq (h : word.value ≠ 0) :
    word.functionText = word.decodeFunction.text := by
  rw [decodeFunction]
  split
  case h_1 hnumber =>
    simp only [functionText, hnumber, if_neg h]
    rfl
  case h_29 =>
    rw [functionText]
    split
    case h_29 => rfl
    all_goals contradiction
  all_goals
    next hnumber =>
      simp only [functionText, hnumber]
      rfl

/-- Both tell the comparisons with zero alike. -/
theorem signName_eq (word : InstructionWord) : word.signName = word.decodeSign.text := by
  rw [signName, decodeSign]
  cases word.links <;> cases word.greaterOrEqual <;> rfl

/-- Both tell the operations of the system coprocessor alike. -/
theorem cop0Text_eq (word : InstructionWord) : word.cop0Text = word.decodeCop0.text := by
  rw [decodeCop0]
  split
  case h_3 hnumber =>
    simp only [cop0Text, hnumber]
    split <;> rfl
  case h_4 =>
    rw [cop0Text]
    split
    case h_4 => rfl
    all_goals contradiction
  all_goals
    next hnumber =>
      simp only [cop0Text, hnumber]
      rfl

/-- The number of a coprocessor is in the operation of a load or store for it. -/
theorem copAccessText_eq {number : Nat} (h : word.op.toNat = number) (name : String) :
    word.copAccessText name = name ++ toString (UInt32.ofNat number &&& 3).toNat := by
  rw [copAccessText, ← h, UInt32.ofNat_toNat]

/-- A word other than zero has the text of the instruction which it is decoded to. -/
theorem text_eq_of_ne (h : word.value ≠ 0) : word.text = word.decode.text := by
  rw [decode]
  split
  case h_1 hnumber =>
    simp only [text, hnumber]
    exact functionText_eq h
  case h_2 hnumber =>
    simp only [text, hnumber, signName_eq]
    rfl
  case h_17 hnumber =>
    simp only [text, hnumber]
    exact word.cop0Text_eq
  case h_33 hnumber | h_34 hnumber | h_35 hnumber | h_36 hnumber | h_37 hnumber | h_38 hnumber
  | h_39 hnumber | h_40 hnumber =>
    simp only [text, hnumber, copAccessText_eq hnumber]
    rfl
  case h_41 =>
    rw [text]
    split
    case h_41 => rfl
    all_goals contradiction
  all_goals
    next hnumber =>
      simp only [text, hnumber]
      rfl

/-- The word zero has a text of its own. -/
theorem text_zero : text ⟨0⟩ = "nop" := by decide

end InstructionWord

end Playstation
