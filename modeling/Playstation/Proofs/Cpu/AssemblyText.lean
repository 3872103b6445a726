import Playstation.Proofs.Cop0
import Playstation.Proofs.Cpu.Alignment
import Playstation.Proofs.Cpu.ControlFlow
import Playstation.Proofs.Instruction.Assembly

/-!
# Assembly text and execution

What a word does depends on no more of it than its text shows. The table by which
words are executed and the one by which their text is written agree, and so two
words with one text are executed alike, whatever bits without a meaning they have.
The words with the text of no instruction are those which always raise an exception
for it.
-/

namespace Playstation

/-- A fault without the instruction word it reports. -/
def HostFault.withoutWord : HostFault → HostFault
  | unimplementedGte pc _ => unimplementedGte pc 0
  | fault => fault

/-- Whether an instruction reads or writes a register of the system
coprocessor. -/
def Instruction.movesCop0 : Instruction → Bool
  | mfc0 .. | mtc0 .. => true
  | _ => false

namespace InstructionWord

variable {word : InstructionWord}

/-- The first operation does not use the system coprocessor. -/
theorem movesCop0_decodeFunction (word : InstructionWord) :
    word.decodeFunction.movesCop0 = false := by
  rw [decodeFunction]
  split <;> rfl

/-- Two operations of the system coprocessor go to its registers. -/
theorem movesCop0_decodeCop0 :
    word.decodeCop0.movesCop0 = true ↔ word.copOp = 0 ∨ word.copOp = 4 := by
  have hread : word.copOp = 0 ↔ word.copOp.toNat = 0x00 := UInt32.toNat_inj.symm
  have hwrite : word.copOp = 4 ↔ word.copOp.toNat = 0x04 := UInt32.toNat_inj.symm
  rw [hread, hwrite, decodeCop0]
  split
  case h_1 hop => simp [hop, Instruction.movesCop0]
  case h_2 hop => simp [hop, Instruction.movesCop0]
  case h_3 hop => split <;> simp [hop, Instruction.movesCop0]
  case h_4 hnoRead hnoWrite _ =>
    exact ⟨fun h => absurd h Bool.false_ne_true,
      fun h => absurd h (not_or.mpr ⟨hnoRead, hnoWrite⟩)⟩

/-- No other words do. -/
theorem movesCop0_decode :
    word.decode.movesCop0 = true ↔ word.op = 0x10 ∧ (word.copOp = 0 ∨ word.copOp = 4) := by
  by_cases hop : word.op = 0x10
  · have hdecode : word.decode = word.decodeCop0 := by
      rw [decode, hop]
      rfl
    rw [hdecode, movesCop0_decodeCop0]
    exact ⟨fun h => ⟨hop, h⟩, And.right⟩
  · have hother : word.decode.movesCop0 = false := by
      rw [decode]
      split
      case h_1 => exact word.movesCop0_decodeFunction
      case h_17 hcop0 => exact absurd (UInt32.toNat_inj.mp hcop0) hop
      all_goals rfl
    rw [hother]
    exact ⟨fun h => absurd h Bool.false_ne_true, fun h => absurd h.1 hop⟩

end InstructionWord

namespace Instruction

variable {instruction other : Instruction}

/-- Instructions with one text show the same. -/
theorem shown_eq_of_text (h : instruction.text = other.text) : instruction.shown = other.shown := by
  rw [← Option.some.injEq, ← ofText?_text, ← ofText?_text, h]

/-- Only what is no instruction has the text for that. -/
theorem text_eq_illegal : instruction.text = "illegal" ↔ instruction = .illegal := by
  constructor
  · intro h
    have hshown : instruction.shown = .illegal := @shown_eq_of_text _ .illegal h
    cases instruction with
    | gte op => cases op <;> exact Instruction.noConfusion hshown
    | j | jal => exact Instruction.noConfusion hshown
    | _ => exact hshown
  · rintro rfl
    rfl

end Instruction

namespace InstructionWord

variable {word other : InstructionWord}

/-- No word but zero has the text of the word zero. -/
theorem text_eq_nop : word.text = "nop" ↔ word.value = 0 := by
  constructor
  · intro h
    by_contra hne
    exact word.decode.text_ne_nop ((text_eq_of_ne hne).symm.trans h)
  · intro h
    obtain ⟨value⟩ := word
    cases h
    exact text_zero

/-- Words with one text are decoded to what shows the same. -/
theorem shown_decode_of_text (h : word.text = other.text) :
    word.decode.shown = other.decode.shown := by
  by_cases hzero : word.value = 0
  · have hother : other.value = 0 := text_eq_nop.mp (h.symm.trans (text_eq_nop.mpr hzero))
    obtain ⟨value⟩ := word
    obtain ⟨value'⟩ := other
    cases hzero
    cases hother
    rfl
  · have hother : other.value ≠ 0 := fun hzero' =>
      hzero (text_eq_nop.mp (h.trans (text_eq_nop.mpr hzero')))
    rw [text_eq_of_ne hzero, text_eq_of_ne hother] at h
    exact Instruction.shown_eq_of_text h

/-- Only words that are no instructions have the text for that. -/
theorem text_eq_illegal : word.text = "illegal" ↔ word.decode = .illegal := by
  by_cases hzero : word.value = 0
  · obtain ⟨value⟩ := word
    cases hzero
    decide
  · rw [text_eq_of_ne hzero, Instruction.text_eq_illegal]

end InstructionWord

/-- The cause tells the exception for what is no instruction from all others. -/
theorem Cop0.eq_illegalInstruction_of_cause {cop0 : Cop0} {exception : Exception} {pc : UInt32}
    {inDelaySlot : Bool}
    (h : (cop0.enter exception pc inDelaySlot).cause =
      (cop0.enter .illegalInstruction pc inDelaySlot).cause) :
    exception = .illegalInstruction := by
  rw [enter_cause, enter_cause] at h
  cases exception with
  | illegalInstruction => rfl
  | _ => cases inDelaySlot <;> exact absurd h (by simp only [Exception.code]; decide)

namespace Cpu

/-- The upper bits of a target make no difference to a jump. -/
theorem jumpAddress_shown (cpu : Cpu) (target : UInt32) :
    cpu.jumpAddress (target <<< 2 >>> 2) = cpu.jumpAddress target := by
  have hshift : (target <<< 2 >>> 2) <<< 2 = target <<< 2 := by
    have htwo : (2 : UInt32).toNat % 32 = 2 := rfl
    rw [← UInt32.toNat_inj, UInt32.toNat_shiftLeft, UInt32.toNat_shiftRight,
      UInt32.toNat_shiftLeft, htwo, Nat.shiftLeft_eq, Nat.shiftLeft_eq, Nat.shiftRight_eq_div_pow]
    omega
  rw [jumpAddress, jumpAddress, hshift]

/-- An instruction is executed as far as its text shows it, but for what the
fault of the geometry coprocessor reports. -/
theorem execute_shown (cpu : Cpu) (instruction : Instruction) :
    (cpu.execute instruction.shown).1 = (cpu.execute instruction).1 ∧
      (cpu.execute instruction.shown).2.map HostFault.withoutWord =
        (cpu.execute instruction).2.map HostFault.withoutWord := by
  cases instruction with
  | j target =>
    have hexecute (target : UInt32) :
        cpu.execute (.j target) = (cpu.jump (cpu.jumpAddress target), none) := rfl
    rw [Instruction.shown, hexecute, hexecute, jumpAddress_shown]
    exact ⟨rfl, rfl⟩
  | jal target =>
    have hexecute (target : UInt32) : cpu.execute (.jal target) =
        ((cpu.jump (cpu.jumpAddress target)).setRegister .ra cpu.nextPc, none) := rfl
    rw [Instruction.shown, hexecute, hexecute, jumpAddress_shown]
    exact ⟨rfl, rfl⟩
  | gte op => cases op <;> exact ⟨rfl, rfl⟩
  | _ => exact ⟨rfl, rfl⟩

/-- The exception for what is no instruction is raised there and where a register
of the system coprocessor does not allow the access. -/
theorem eq_illegal_or_movesCop0 {cpu : Cpu} {instruction : Instruction}
    (h : cpu.exception? instruction = some .illegalInstruction) :
    instruction = .illegal ∨ instruction.movesCop0 = true := by
  cases instruction with
  | illegal => exact .inl rfl
  | mfc0 | mtc0 => exact .inr rfl
  | alu | immediate | load | store =>
    simp only [exception?] at h
    split at h <;> cases h
  | _ => cases h

/-- An exception shows in what is executed: unless the processor is at the handler already, it
gets there by nothing else, and the cause is that of one exception only. -/
theorem execute_eq_raise_illegal_iff {cpu : Cpu} {instruction : Instruction}
    (h : cpu.pc ≠ cpu.cop0.handler) :
    cpu.execute instruction = (cpu.raise .illegalInstruction, none) ↔
      cpu.exception? instruction = some .illegalInstruction := by
  constructor
  · intro hexecute
    rw [execute] at hexecute
    cases hraise : cpu.exception? instruction with
    | some exception =>
      rw [hraise] at hexecute
      have hcause := congrArg (fun after => after.1.cop0.cause) hexecute
      exact congrArg some (Cop0.eq_illegalInstruction_of_cause hcause)
    | none =>
      rw [hraise] at hexecute
      have hpc : cpu.pc = (cpu.raise .illegalInstruction).cop0.handler :=
        (cpu.perform_pc instruction).symm.trans (congrArg (fun after => after.1.pc) hexecute)
      rw [raise, Cop0.enter_handler] at hpc
      exact absurd hpc h
  · intro hraise
    rw [execute, hraise]

/-- It shows in the whole step, too, unless the handler comes next anyway. -/
theorem Fetches.enters_illegal_iff {cpu : Cpu} {word : InstructionWord} (hfetch : cpu.Fetches word)
    (h : cpu.nextPc ≠ cpu.cop0.handler) :
    cpu.Enters .illegalInstruction ↔
      cpu.exception? word.decode = some .illegalInstruction := by
  constructor
  · intro henters
    cases hraise : cpu.exception? word.decode with
    | some exception =>
      have hcop0 := henters.cop0
      rw [hfetch.step_of_exception hraise] at hcop0
      exact congrArg some (Cop0.eq_illegalInstruction_of_cause (congrArg Cop0.cause hcop0))
    | none =>
      have hpc : cpu.step.1.pc = cpu.nextPc := by
        rw [hfetch.step_of_perform hraise]
        exact perform_pc _ _
      rw [henters.handler, henters.cop0, Cop0.enter_handler] at hpc
      exact absurd hpc.symm h
  · exact fun hraise => (hfetch.raises hraise).enters

/-- Two words with the same text are executed alike from every state, but for the
word which the fault of the geometry coprocessor reports. The text of a word is
the one for no instruction if and only if the exception for that is raised and the
word is none which reads or writes a register of the system coprocessor. Then the
exception is all that execution does. Wherever the processor does not get to the
handler anyway, nothing else does this, and a step which executes the word enters
the exception for no other reason. -/
theorem text_determines_execution :
    (∀ word other : InstructionWord, word.text = other.text → ∀ cpu : Cpu,
      (cpu.execute word.decode).1 = (cpu.execute other.decode).1 ∧
        (cpu.execute word.decode).2.map HostFault.withoutWord =
          (cpu.execute other.decode).2.map HostFault.withoutWord) ∧
      ∀ (word : InstructionWord) (cpu : Cpu),
        (word.text = "illegal" ↔ cpu.exception? word.decode = some .illegalInstruction ∧
          ¬(word.op = 0x10 ∧ (word.copOp = 0 ∨ word.copOp = 4))) ∧
        (word.text = "illegal" →
          cpu.execute word.decode = (cpu.raise .illegalInstruction, none)) ∧
        (cpu.pc ≠ cpu.cop0.handler → (word.text = "illegal" ↔
          cpu.execute word.decode = (cpu.raise .illegalInstruction, none) ∧
            ¬(word.op = 0x10 ∧ (word.copOp = 0 ∨ word.copOp = 4)))) ∧
        (cpu.Fetches word → cpu.nextPc ≠ cpu.cop0.handler → (word.text = "illegal" ↔
          cpu.Enters .illegalInstruction ∧
            ¬(word.op = 0x10 ∧ (word.copOp = 0 ∨ word.copOp = 4)))) := by
  have hraises (word : InstructionWord) (cpu : Cpu) : word.text = "illegal" ↔
      cpu.exception? word.decode = some .illegalInstruction ∧
        ¬(word.op = 0x10 ∧ (word.copOp = 0 ∨ word.copOp = 4)) := by
    rw [InstructionWord.text_eq_illegal, ← InstructionWord.movesCop0_decode]
    constructor
    · intro hillegal
      rw [hillegal]
      exact ⟨rfl, nofun⟩
    · rintro ⟨hraise, hmoves⟩
      exact (eq_illegal_or_movesCop0 hraise).resolve_right hmoves
  refine ⟨fun word other htext cpu => ?_, fun word cpu => ⟨hraises word cpu, ?_, ?_, ?_⟩⟩
  · have hword := cpu.execute_shown word.decode
    have hother := cpu.execute_shown other.decode
    rw [InstructionWord.shown_decode_of_text htext] at hword
    exact ⟨hword.1.symm.trans hother.1, hword.2.symm.trans hother.2⟩
  · intro htext
    rw [execute, ((hraises word cpu).mp htext).1]
  · intro hpc
    rw [execute_eq_raise_illegal_iff hpc]
    exact hraises word cpu
  · intro hfetch hnext
    rw [hfetch.enters_illegal_iff hnext]
    exact hraises word cpu

/-- Two words for the geometry coprocessor differ in a bit that the text does not
show. A word of an operation that does not exist raises the exception for that at
power on, and it does nothing else. -/
theorem text_determines_execution_cop2 :
    (InstructionWord.mk 0x4a000001).text = (InstructionWord.mk 0x48000001).text ∧
      (InstructionWord.mk 0x4a000001).decode ≠ (InstructionWord.mk 0x48000001).decode ∧
      (∀ cpu : Cpu, (cpu.execute (InstructionWord.mk 0x4a000001).decode).1 =
        (cpu.execute (InstructionWord.mk 0x48000001).decode).1) ∧
      (InstructionWord.mk 0xfc000000).text = "illegal" ∧
      ∀ bios, (powerOn bios).pc ≠ (powerOn bios).cop0.handler ∧
        (powerOn bios).execute (InstructionWord.mk 0xfc000000).decode =
          ((powerOn bios).raise .illegalInstruction, none) := by
  have htext : (InstructionWord.mk 0x4a000001).text = (InstructionWord.mk 0x48000001).text := by
    decide
  have hillegal : (InstructionWord.mk 0xfc000000).text = "illegal" := by decide
  refine ⟨htext, by decide, fun cpu => (text_determines_execution.1 _ _ htext cpu).1, hillegal,
    fun bios => ?_⟩
  have hpc : (powerOn bios).pc ≠ (powerOn bios).cop0.handler := by
    change resetAddress ≠ Cop0.powerOn.handler
    decide
  exact ⟨hpc, (((text_determines_execution.2 _ _).2.2.1 hpc).mp hillegal).1⟩

end Cpu

end Playstation
