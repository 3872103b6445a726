import Playstation.Proofs.Cpu.Operation

/-!
# Where a program continues

The instruction in the delay slot always comes next, and a control transfer
decides on the one after it. Which words are control transfers is told by their
fields alone, as is the register for the return address; the conditions of the
branches are on signed numbers. The main statement is that every step without
exception continues as these words say and in order after any other word, and
that a control transfer writes no register but the one for the return address.
-/

namespace Playstation

/-- The operations which decide where a program continues. -/
inductive Transfer where
  /-- Branch if two registers are equal. -/
  | beq
  /-- Branch if two registers differ. -/
  | bne
  /-- Branch if a register is at most zero. -/
  | blez
  /-- Branch if a register is more than zero. -/
  | bgtz
  /-- Branch on the sign of a register. A bit of the word selects which sign, and
  four others whether the return address is written. -/
  | bcondz
  /-- Jump. -/
  | j
  /-- Jump and write the return address. -/
  | jal
  /-- Jump to a register. -/
  | jr
  /-- Jump to a register and write the return address. -/
  | jalr
  deriving DecidableEq

namespace InstructionWord

/-- The control transfer which a word asks for, if it does. -/
def transfer? (word : InstructionWord) : Option Transfer :=
  match word.op.toNat with
  | 0x00 =>
    match word.function.toNat with
    | 0x08 => some .jr
    | 0x09 => some .jalr
    | _ => none
  | 0x01 => some .bcondz
  | 0x02 => some .j
  | 0x03 => some .jal
  | 0x04 => some .beq
  | 0x05 => some .bne
  | 0x06 => some .blez
  | 0x07 => some .bgtz
  | _ => none

/-- The register to which a word writes the return address, if it does. -/
def link? (word : InstructionWord) : Option Register :=
  match word.transfer? with
  | some .jal => some .ra
  | some .jalr => some word.rd
  | some .bcondz => if bits word.value 17 20 = 8 then some .ra else none
  | _ => none

end InstructionWord

/-- The instruction of a control transfer. -/
def Transfer.instruction (transfer : Transfer) (word : InstructionWord) : Instruction :=
  match transfer with
  | beq => .compare .beq word.rs word.rt word.signedImm
  | bne => .compare .bne word.rs word.rt word.signedImm
  | blez => .sign .blez word.rs word.signedImm
  | bgtz => .sign .bgtz word.rs word.signedImm
  | bcondz => .sign word.decodeSign word.rs word.signedImm
  | j => .j word.target
  | jal => .jal word.target
  | jr => .jr word.rs
  | jalr => .jalr word.rd word.rs

/-- Whether an instruction is a control transfer. -/
def Instruction.transfers : Instruction → Bool
  | j _ | jal _ | jr _ | jalr _ _ | compare .. | sign .. => true
  | _ => false

namespace InstructionWord

variable {word : InstructionWord}

/-- Words of the first operation are decoded by their function. -/
theorem decode_of_first (h : word.op.toNat = 0x00) : word.decode = word.decodeFunction := by
  rw [decode, h]
  rfl

/-- The word of a control transfer is decoded as one. -/
theorem decode_of_transfer {transfer : Transfer} (h : word.transfer? = some transfer) :
    word.decode = transfer.instruction word := by
  rw [transfer?] at h
  split at h
  case h_1 hop =>
    rw [decode_of_first hop, decodeFunction]
    split at h
    case h_1 hfunction => cases h; rw [hfunction]; rfl
    case h_2 hfunction => cases h; rw [hfunction]; rfl
    case h_3 => cases h
  case h_9 => cases h
  all_goals next hop => cases h; rw [decode, hop]; rfl

/-- Among the words of the first operation, two functions are control
transfers. -/
theorem transfers_decodeFunction (hjr : word.function.toNat ≠ 0x08)
    (hjalr : word.function.toNat ≠ 0x09) : word.decodeFunction.transfers = false := by
  rw [decodeFunction]
  split
  case h_7 hfunction => exact absurd hfunction hjr
  case h_8 hfunction => exact absurd hfunction hjalr
  all_goals rfl

/-- No instruction for the system coprocessor is a control transfer. -/
theorem transfers_decodeCop0 (word : InstructionWord) : word.decodeCop0.transfers = false := by
  rw [decodeCop0]
  split
  case h_3 => split <;> rfl
  all_goals rfl

/-- Other words are not decoded as control transfers. -/
theorem transfers_decode (h : word.transfer? = none) : word.decode.transfers = false := by
  rw [transfer?] at h
  split at h
  case h_1 hop =>
    rw [decode_of_first hop]
    split at h
    case h_3 hjr hjalr => exact transfers_decodeFunction hjr hjalr
    all_goals cases h
  case h_9 hzero hone htwo hthree hfour hfive hsix hseven =>
    rw [decode]
    split
    case h_1 hop => exact absurd hop hzero
    case h_2 hop => exact absurd hop hone
    case h_3 hop => exact absurd hop htwo
    case h_4 hop => exact absurd hop hthree
    case h_5 hop => exact absurd hop hfour
    case h_6 hop => exact absurd hop hfive
    case h_7 hop => exact absurd hop hsix
    case h_8 hop => exact absurd hop hseven
    case h_17 => exact word.transfers_decodeCop0
    all_goals rfl
  all_goals cases h

/-- The sign which a branch asks for is selected by one bit. -/
theorem holds_decodeSign (word : InstructionWord) (x : UInt32) :
    word.decodeSign.holds x =
      if bit word.value 16 then decide (0 ≤ x.toInt32) else decide (x.toInt32 < 0) := by
  rw [decodeSign]
  change _ = if word.greaterOrEqual then _ else _
  cases word.links <;> cases word.greaterOrEqual <;> rfl

/-- Four bits select whether such a branch writes the return address. -/
theorem links_decodeSign (word : InstructionWord) :
    word.decodeSign.links = decide (bits word.value 17 20 = 8) := by
  rw [decodeSign]
  change _ = word.links
  cases word.links <;> cases word.greaterOrEqual <;> rfl

end InstructionWord

namespace Cpu

/-- The value of a register as a signed number. -/
def signed (cpu : Cpu) (register : Register) : Int := (cpu.register register).toInt32.toInt

/-- Whether the condition of a branch holds. A jump has none. -/
def branches (cpu : Cpu) (word : InstructionWord) : Transfer → Bool
  | .beq => cpu.register word.rs = cpu.register word.rt
  | .bne => cpu.register word.rs ≠ cpu.register word.rt
  | .blez => cpu.signed word.rs ≤ 0
  | .bgtz => 0 < cpu.signed word.rs
  | .bcondz => if bit word.value 16 then 0 ≤ cpu.signed word.rs else cpu.signed word.rs < 0
  | .j | .jal | .jr | .jalr => false

/-- Where a word continues after its delay slot, which is the instruction that was
to come next: a jump goes to a word in the 256 MB around the delay slot or to the
address in a register, a branch whose condition holds to an offset from the delay
slot, and everything else behind the delay slot. -/
def destination (cpu : Cpu) (word : InstructionWord) : UInt32 :=
  match word.transfer? with
  | some .j | some .jal => (cpu.nextPc &&& 0xf0000000) ||| (word.target <<< (2 : UInt32))
  | some .jr | some .jalr => cpu.register word.rs
  | some branch =>
    if cpu.branches word branch then cpu.nextPc + word.signedImm <<< 2 else cpu.nextPc + 4
  | none => cpu.nextPc + 4

section Perform

variable (cpu : Cpu)

/-- The delay slot comes next, whatever an instruction does. -/
theorem perform_pc (instruction : Instruction) : (cpu.perform instruction).1.pc = cpu.pc := by
  cases instruction with
  | load op rt base offset =>
    simp only [perform, performLoad_eq]
    split <;> rfl
  | store op rt base offset => rw [perform, performStore_eq]
  | compare op rs rt offset =>
    simp only [perform, compute]
    split <;> rfl
  | sign op rs offset =>
    simp only [perform, compute]
    split <;> split <;> rfl
  | _ => rfl

/-- An instruction which is no control transfer goes on in order. -/
theorem perform_nextPc {instruction : Instruction} (h : instruction.transfers = false) :
    (cpu.perform instruction).1.nextPc = cpu.nextPc := by
  cases instruction with
  | load op rt base offset =>
    simp only [perform, performLoad_eq]
    split <;> rfl
  | store op rt base offset => rw [perform, performStore_eq]
  | j | jal | jr | jalr | compare | sign => cases h
  | _ => rfl

/-- A branch on two registers goes to its target if the condition holds, and writes
no register. -/
theorem perform_compare {op : CompareOp} {rs rt : Register} {taken : Bool} (offset : UInt32)
    (h : op.holds (cpu.register rs) (cpu.register rt) = taken) :
    (cpu.perform (.compare op rs rt offset)).1.nextPc =
        (if taken then cpu.pc + offset <<< 2 else cpu.nextPc) ∧
      (cpu.perform (.compare op rs rt offset)).1.output = cpu.output := by
  simp only [perform, compute, h]
  split <;> exact ⟨rfl, rfl⟩

/-- A branch on a sign does the same, except that it may write the return address
whether or not the condition holds. -/
theorem perform_sign {op : SignOp} {rs : Register} {taken : Bool} (offset : UInt32)
    (h : op.holds (cpu.register rs) = taken) :
    (cpu.perform (.sign op rs offset)).1.nextPc =
        (if taken then cpu.pc + offset <<< 2 else cpu.nextPc) ∧
      (cpu.perform (.sign op rs offset)).1.output =
        if op.links then cpu.output.write .ra cpu.nextPc else cpu.output := by
  simp only [perform, compute, h]
  split <;> split <;> exact ⟨rfl, rfl⟩

end Perform

variable {cpu : Cpu} {word : InstructionWord}

/-- The conditions of the branches on two registers. -/
theorem holds_compare (cpu : Cpu) (word : InstructionWord) :
    CompareOp.beq.holds (cpu.register word.rs) (cpu.register word.rt) = cpu.branches word .beq ∧
      CompareOp.bne.holds (cpu.register word.rs) (cpu.register word.rt) =
        cpu.branches word .bne := by
  refine ⟨beq_eq_decide _ _, ?_⟩
  rw [CompareOp.holds, bne, beq_eq_decide, branches, decide_not]

/-- The conditions on a sign are on the register as a signed number. -/
theorem holds_sign (cpu : Cpu) (word : InstructionWord) :
    SignOp.blez.holds (cpu.register word.rs) = cpu.branches word .blez ∧
      SignOp.bgtz.holds (cpu.register word.rs) = cpu.branches word .bgtz ∧
      word.decodeSign.holds (cpu.register word.rs) = cpu.branches word .bcondz := by
  have hzero : (0 : Int32).toInt = 0 := rfl
  refine ⟨decide_eq_decide.mpr ?_, decide_eq_decide.mpr ?_, ?_⟩
  · rw [Int32.le_iff_toInt_le, hzero]
    rfl
  · rw [Int32.lt_iff_toInt_lt, hzero]
    rfl
  · rw [InstructionWord.holds_decodeSign, branches]
    split
    · rw [decide_eq_decide, Int32.le_iff_toInt_le, hzero]
      rfl
    · rw [decide_eq_decide, Int32.lt_iff_toInt_lt, hzero]
      rfl

/-- A control transfer which is executed after the fetch and the landing of the
load before it goes to its destination, and writes the return address if it
should. -/
theorem perform_transfer {transfer : Transfer} (h : word.transfer? = some transfer) :
    (cpu.fetched.landPending.perform word.decode).1.nextPc = cpu.destination word ∧
      (cpu.fetched.landPending.perform word.decode).1.output =
        cpu.landPending.output.writeAny (word.link?.map fun link => (link, cpu.nextPc + 4)) := by
  obtain ⟨hbeq, hbne⟩ := cpu.holds_compare word
  obtain ⟨hblez, hbgtz, hbcondz⟩ := cpu.holds_sign word
  rw [InstructionWord.decode_of_transfer h, destination, InstructionWord.link?, h]
  cases transfer with
  | beq => exact cpu.fetched.landPending.perform_compare word.signedImm hbeq
  | bne => exact cpu.fetched.landPending.perform_compare word.signedImm hbne
  | blez => exact cpu.fetched.landPending.perform_sign word.signedImm hblez
  | bgtz => exact cpu.fetched.landPending.perform_sign word.signedImm hbgtz
  | bcondz =>
    obtain ⟨hnext, houtput⟩ := cpu.fetched.landPending.perform_sign word.signedImm hbcondz
    refine ⟨hnext, houtput.trans ?_⟩
    rw [InstructionWord.links_decodeSign]
    by_cases hlink : bits word.value 17 20 = 8
    · rw [if_pos (decide_eq_true hlink)]
      simp only [hlink, if_true]
      rfl
    · rw [if_neg (by rw [decide_eq_true_eq]; exact hlink)]
      simp only [hlink, if_false]
      rfl
  | j | jal | jr | jalr => exact ⟨rfl, rfl⟩

/-- A step which fetches a word raises an exception exactly if the instruction
does. -/
theorem Fetches.exception?_eq_none_iff (h : cpu.Fetches word) :
    cpu.exception? word.decode = none ↔ ∀ exception, ¬cpu.Raises exception := by
  constructor
  · intro hnone exception hraise
    rcases hraise.cases with ⟨haligns, -⟩ | ⟨other, hother, hsome⟩
    · rw [h.aligns] at haligns
      cases haligns
    · rw [← h.unique hother, hnone] at hsome
      cases hsome
  · intro hnone
    cases hraise : cpu.exception? word.decode with
    | none => rfl
    | some exception => exact absurd (h.raises hraise) (hnone exception)

/-- A register after the return address has been written, if it is. -/
theorem get_linked {bank : RegisterBank} (hzero : bank.get 0 = 0) (link? : Option Register)
    (address : UInt32) (register : Register) :
    (bank.writeAny (link?.map fun link => (link, address))).get register =
      if register = 0 then 0 else if link? = some register then address
      else bank.get register := by
  cases link? with
  | none =>
    change bank.get register = _
    split
    · next hregister => rw [hregister, hzero]
    · rfl
  | some link =>
    refine (RegisterBank.get_write bank link register address).trans ?_
    simp only [Option.some.injEq, eq_comm]

/-- What a step does to the registers which executes a control transfer. -/
theorem register_transfer {transfer : Transfer} (hfetch : cpu.Fetches word)
    (hnone : cpu.exception? word.decode = none) (h : word.transfer? = some transfer)
    (register : Register) :
    cpu.step.1.register register =
      if register = 0 then 0 else if word.link? = some register then cpu.nextPc + 4
      else if register = cpu.pending.register then cpu.pending.value
      else cpu.output.get register := by
  have hvisible : cpu.step.1.visible =
      cpu.landPending.output.writeAny (word.link?.map fun link => (link, cpu.nextPc + 4)) := by
    rw [hfetch.step_of_perform hnone]
    exact (perform_transfer h).2
  have hzero : cpu.landPending.output.get 0 = 0 := RegisterBank.get_zero_write _ _ _
  rw [Cpu.register, hvisible, get_linked hzero]
  split
  · rfl
  · next hregister =>
    rw [get_landPending, if_neg hregister]

/-- After every step which fetches a word and raises no exception, from whatever
state and also if the step meets a host fault, the instruction that was to come
next does, and the one behind it is at the destination which the word has with the
registers before the step. A control transfer writes the return address, which is
that of the instruction behind the delay slot, to the register for it, if it has
one and also if it is not taken. Besides, it writes no register but by the load
that was on its way. -/
theorem control_flow (hfetch : cpu.Fetches word) (hraise : ∀ exception, ¬cpu.Raises exception) :
    cpu.step.1.pc = cpu.nextPc ∧
    cpu.step.1.nextPc = cpu.destination word ∧
    (word.transfer?.isSome → ∀ register, cpu.step.1.register register =
      if register = 0 then 0 else if word.link? = some register then cpu.nextPc + 4
      else if register = cpu.pending.register then cpu.pending.value
      else cpu.output.get register) ∧
    (cpu.output = cpu.visible → word.transfer?.isSome → ∀ register, register ≠ 0 →
      word.link? ≠ some register → register ≠ cpu.pending.register →
        cpu.step.1.register register = cpu.register register) := by
  have hnone := hfetch.exception?_eq_none_iff.mpr hraise
  have hstep := hfetch.step_of_perform hnone
  have hregister (htransfer : word.transfer?.isSome) (register : Register) :=
    register_transfer hfetch hnone (Option.some_get htransfer).symm register
  refine ⟨?_, ?_, hregister, ?_⟩
  · rw [hstep]
    exact perform_pc _ _
  · rw [hstep]
    cases htransfer : word.transfer? with
    | some transfer => exact (perform_transfer htransfer).1
    | none =>
      rw [destination, htransfer]
      exact perform_nextPc _ (InstructionWord.transfers_decode htransfer)
  · intro hbanks htransfer register hzero hlink hpending
    rw [hregister htransfer, if_neg hzero, if_neg hlink, if_neg hpending, hbanks]
    rfl

/-- A branch on the return address which is taken four bytes back, where a
negative value lands in that register at the same time. The branch looks at the old
value, and the new return address is written over the one that lands. -/
theorem control_flow_ra :
    let cpu : Cpu := { powerOn (.ofWords [0x07f1ffff]) with pending := ⟨31, 0x80000000⟩ }
    cpu.Fetches ⟨0x07f1ffff⟩ ∧ (∀ exception, ¬cpu.Raises exception) ∧
      cpu.step.1.pc = 0xbfc00004 ∧ cpu.step.1.nextPc = 0xbfc00000 ∧
      cpu.step.1.register 31 = 0xbfc00008 := by
  intro cpu
  have hfetch : cpu.Fetches ⟨0x07f1ffff⟩ := fetches_ofWords (i := 0) rfl rfl (by decide) rfl
  have hdecode : (InstructionWord.mk 0x07f1ffff).decode = .sign .bgezal 31 0xffffffff := by decide
  have hraise : ∀ exception, ¬cpu.Raises exception :=
    hfetch.exception?_eq_none_iff.mp (by rw [hdecode]; rfl)
  obtain ⟨hpc, hnext, hregister, -⟩ := control_flow hfetch hraise
  refine ⟨hfetch, hraise, hpc, ?_, ?_⟩
  · rw [hnext]
    decide
  · rw [hregister rfl]
    decide

end Cpu

end Playstation
