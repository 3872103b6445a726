import Playstation.Proofs.Cop0
import Playstation.Proofs.Cpu.CommitLaw

/-!
# Precise exceptions

An instruction that raises an exception does nothing else. Below, the reasons
for exceptions are listed as the processor manual would list them, by the
instruction and the registers it finds; these are all there are. The main
statement then says what every such step leaves: the load on its way has
landed, the system coprocessor describes the exception, the handler comes
next, and everything else is as it was when the instruction was fetched.
-/

namespace Playstation

namespace OneBank

variable {machine : OneBank} {instruction : Instruction}

/-- Whether an instruction is a branch that is taken. -/
def takes (machine : OneBank) (instruction : Instruction) : Bool :=
  match instruction with
  | .j _ | .jal _ | .jr _ | .jalr _ _ => true
  | .compare op rs rt _ => op.holds (machine.register rs) (machine.register rt)
  | .sign op rs _ => op.holds (machine.register rs)
  | _ => false

/-- A branch that is taken raises no exception. -/
theorem takes_of_exception {exception : Exception}
    (h : machine.exception? instruction = some exception) : machine.takes instruction = false := by
  cases instruction <;> first | rfl | exact absurd h (by simp [exception?])

/-- Stores are no branches. -/
theorem storeValue_branching (w : Width) (address value : UInt32) :
    (machine.storeValue w address value).1.branching = machine.branching := by
  rw [storeValue]
  split <;> rfl

/-- The mark of a branch is set by the branches that are taken. -/
theorem effect_branching :
    (machine.effect instruction).1.branching =
      (machine.branching || machine.takes instruction) := by
  cases instruction with
  | store op rt base offset =>
    simp only [effect, takes, Bool.or_false]
    split
    · split
      · exact storeValue_branching _ _ _
      · rfl
    · exact storeValue_branching _ _ _
  | compare op rs rt offset =>
    simp only [effect, takes]
    split
    · next htaken => rw [htaken, Bool.or_true]; rfl
    · next hstay => rw [Bool.not_eq_true] at hstay; rw [hstay, Bool.or_false]
  | sign op rs offset =>
    simp only [effect, takes]
    split
    · next htaken => rw [htaken, Bool.or_true]; rfl
    · next hstay => rw [Bool.not_eq_true] at hstay; rw [hstay, Bool.or_false]
  | j | jal | jr | jalr => exact (Bool.or_true _).symm
  | _ => exact (Bool.or_false _).symm

end OneBank

namespace Cpu

variable {cpu : Cpu}

/-- Whether the next step executes a branch that is taken. -/
def TakesBranch (cpu : Cpu) : Prop :=
  ∃ word, cpu.Fetches word ∧ cpu.oneBank.takes word.decode = true

/-- Fetching an instruction does not change whether it is taken as a branch. -/
theorem takes_fetched (cpu : Cpu) (instruction : Instruction) :
    cpu.fetched.oneBank.takes instruction = cpu.oneBank.takes instruction := by
  cases instruction <;> rfl

/-- The instruction of the next step is in a delay slot if this step executes
a branch that is taken. -/
theorem step_branching (h : cpu.output = cpu.visible) :
    cpu.step.1.branching = true ↔ cpu.TakesBranch := by
  rcases cpu.step_cases with haligns | ⟨haligns, fault, hfault⟩ | ⟨word, hfetch⟩
  · rw [step_of_misaligned haligns]
    constructor
    · intro hbranching
      cases hbranching
    · rintro ⟨word, hfetch, -⟩
      rw [hfetch.aligns] at haligns
      cases haligns
  · rw [step_of_refused haligns hfault]
    constructor
    · intro hbranching
      cases hbranching
    · rintro ⟨word, hfetch, -⟩
      rw [hfetch.loaded] at hfault
      cases hfault
  · have hstep : cpu.step.1.branching = cpu.oneBank.takes word.decode := by
      have hbranching : cpu.step.1.branching =
          (cpu.fetched.oneBank.execute word.decode).1.branching :=
        congrArg (fun after => OneBank.branching after.1) (hfetch.step_oneBank h)
      rw [hbranching, OneBank.execute, ← takes_fetched]
      cases hraise : cpu.fetched.oneBank.exception? word.decode with
      | some exception => exact (OneBank.takes_of_exception hraise).symm
      | none => exact OneBank.effect_branching
    rw [hstep]
    constructor
    · exact fun htakes => ⟨word, hfetch, htakes⟩
    · rintro ⟨other, hother, htakes⟩
      rw [hfetch.unique hother]
      exact htakes

/-- The exceptions which the next step can raise, each with its reason. -/
inductive Raises (cpu : Cpu) : Exception → Prop where
  /-- The program counter is misaligned. -/
  | fetch (h : Width.word.aligns cpu.pc = false) : Raises cpu (.addressLoadError cpu.pc)
  /-- A halfword or word is loaded from a misaligned address. -/
  | load {word : InstructionWord} {op : LoadOp} {rt base : Register} {offset : UInt32}
    (hfetch : cpu.Fetches word) (hword : word.decode = .load op rt base offset)
    (hop : op = .lh ∨ op = .lhu ∨ op = .lw)
    (h : op.width.aligns (cpu.register base + offset) = false) :
    Raises cpu (.addressLoadError (cpu.register base + offset))
  /-- A halfword or word is stored at a misaligned address. -/
  | store {word : InstructionWord} {op : StoreOp} {rt base : Register} {offset : UInt32}
    (hfetch : cpu.Fetches word) (hword : word.decode = .store op rt base offset)
    (hop : op = .sh ∨ op = .sw)
    (h : op.width.aligns (cpu.register base + offset) = false) :
    Raises cpu (.addressStoreError (cpu.register base + offset))
  /-- System call. -/
  | syscall {word : InstructionWord} (hfetch : cpu.Fetches word)
    (hword : word.decode = .syscall) : Raises cpu .syscall
  /-- Breakpoint. -/
  | breakpoint {word : InstructionWord} (hfetch : cpu.Fetches word)
    (hword : word.decode = .breakpoint) : Raises cpu .breakpoint
  /-- A trapping sum does not fit. -/
  | add {word : InstructionWord} {rd rs rt : Register} (hfetch : cpu.Fetches word)
    (hword : word.decode = .alu .add rd rs rt)
    (h : fitsSigned ((cpu.register rs).toInt32.toInt + (cpu.register rt).toInt32.toInt) = false) :
    Raises cpu .arithmeticOverflow
  /-- A trapping difference does not fit. -/
  | sub {word : InstructionWord} {rd rs rt : Register} (hfetch : cpu.Fetches word)
    (hword : word.decode = .alu .sub rd rs rt)
    (h : fitsSigned ((cpu.register rs).toInt32.toInt - (cpu.register rt).toInt32.toInt) = false) :
    Raises cpu .arithmeticOverflow
  /-- A trapping sum with an immediate value does not fit. -/
  | addi {word : InstructionWord} {rt rs : Register} {value : UInt32} (hfetch : cpu.Fetches word)
    (hword : word.decode = .immediate .addi rt rs value)
    (h : fitsSigned ((cpu.register rs).toInt32.toInt + value.toInt32.toInt) = false) :
    Raises cpu .arithmeticOverflow
  /-- The instruction does not exist. -/
  | undefined {word : InstructionWord} (hfetch : cpu.Fetches word)
    (hword : word.decode = .illegal) : Raises cpu .illegalInstruction
  /-- The register of the coprocessor cannot be read. -/
  | unreadable {word : InstructionWord} {rt : Register} {register : Nat}
    (hfetch : cpu.Fetches word) (hword : word.decode = .mfc0 rt register)
    (h : cpu.cop0.read? register = none) : Raises cpu .illegalInstruction
  /-- A breakpoint register is set to something else than zero. -/
  | unwritable {word : InstructionWord} {rt : Register} {register : Nat}
    (hfetch : cpu.Fetches word) (hword : word.decode = .mtc0 rt register)
    (hregister : Cop0.isBreakpoint register = true) (h : cpu.register rt ≠ 0) :
    Raises cpu .illegalInstruction
  /-- The instruction needs a coprocessor which does not exist. -/
  | coprocessor {word : InstructionWord} {op : MissingCopOp} (hfetch : cpu.Fetches word)
    (hword : word.decode = .missingCop op) : Raises cpu .copUnusable

/-- Every exception is raised in the place of a misaligned fetch or by the
instruction that was fetched. -/
theorem Raises.cases {exception : Exception} (h : cpu.Raises exception) :
    (Width.word.aligns cpu.pc = false ∧ exception = .addressLoadError cpu.pc) ∨
    ∃ word, cpu.Fetches word ∧ cpu.exception? word.decode = some exception := by
  cases h with
  | fetch h => exact .inl ⟨h, rfl⟩
  | load hfetch hword hop h =>
    refine .inr ⟨_, hfetch, ?_⟩
    rw [hword]
    rcases hop with rfl | rfl | rfl <;> exact if_neg (by rw [Bool.not_eq_true]; exact h)
  | store hfetch hword hop h =>
    refine .inr ⟨_, hfetch, ?_⟩
    rw [hword]
    rcases hop with rfl | rfl <;> exact if_neg (by rw [Bool.not_eq_true]; exact h)
  | add hfetch hword h | sub hfetch hword h =>
    refine .inr ⟨_, hfetch, ?_⟩
    rw [hword]
    exact if_pos (by rw [AluOp.traps, Bool.not_eq_true']; exact h)
  | addi hfetch hword h =>
    refine .inr ⟨_, hfetch, ?_⟩
    rw [hword]
    exact if_pos (by rw [ImmOp.traps, Bool.not_eq_true']; exact h)
  | unreadable hfetch hword h =>
    refine .inr ⟨_, hfetch, ?_⟩
    rw [hword, exception?, h]
  | unwritable hfetch hword hregister h =>
    refine .inr ⟨_, hfetch, ?_⟩
    rw [hword]
    exact if_pos (Bool.and_eq_true_iff.mpr ⟨hregister, bne_iff_ne.mpr h⟩)
  | syscall hfetch hword | breakpoint hfetch hword | undefined hfetch hword
  | coprocessor hfetch hword =>
    refine .inr ⟨_, hfetch, ?_⟩
    rw [hword]
    rfl

/-- An address with its two low bits cleared is aligned. -/
theorem aligns_masked (address : UInt32) : Width.word.aligns (address &&& 0xfffffffc) = true := by
  rw [Width.aligns, UInt32.and_assoc]
  have hmask : (0xfffffffc &&& 3 : UInt32) = 0 := by decide
  rw [hmask, UInt32.and_zero]
  rfl

/-- The list of reasons is complete. -/
theorem Fetches.raises {word : InstructionWord} {exception : Exception}
    (hfetch : cpu.Fetches word) (h : cpu.exception? word.decode = some exception) :
    cpu.Raises exception := by
  cases hword : word.decode with
  | alu op rd rs rt =>
    rw [hword] at h
    simp only [exception?, Option.ite_none_right_eq_some, Option.some.injEq] at h
    obtain ⟨htraps, rfl⟩ := h
    cases op with
    | add => exact .add hfetch hword (by rwa [AluOp.traps, Bool.not_eq_true'] at htraps)
    | sub => exact .sub hfetch hword (by rwa [AluOp.traps, Bool.not_eq_true'] at htraps)
    | _ => cases htraps
  | immediate op rt rs value =>
    rw [hword] at h
    simp only [exception?, Option.ite_none_right_eq_some, Option.some.injEq] at h
    obtain ⟨htraps, rfl⟩ := h
    cases op with
    | addi => exact .addi hfetch hword (by rwa [ImmOp.traps, Bool.not_eq_true'] at htraps)
    | _ => cases htraps
  | load op rt base offset =>
    rw [hword] at h
    simp only [exception?, Option.ite_none_left_eq_some, Option.some.injEq] at h
    obtain ⟨haligns, rfl⟩ := h
    rw [Bool.not_eq_true] at haligns
    cases op with
    | lb | lbu => cases haligns
    | lwl | lwr => exact Bool.noConfusion ((aligns_masked _).symm.trans haligns)
    | lh => exact .load hfetch hword (.inl rfl) haligns
    | lhu => exact .load hfetch hword (.inr (.inl rfl)) haligns
    | lw => exact .load hfetch hword (.inr (.inr rfl)) haligns
  | store op rt base offset =>
    rw [hword] at h
    simp only [exception?, Option.ite_none_left_eq_some, Option.some.injEq] at h
    obtain ⟨haligns, rfl⟩ := h
    rw [Bool.not_eq_true] at haligns
    cases op with
    | sb => cases haligns
    | swl | swr => exact Bool.noConfusion ((aligns_masked _).symm.trans haligns)
    | sh => exact .store hfetch hword (.inl rfl) haligns
    | sw => exact .store hfetch hword (.inr rfl) haligns
  | mfc0 rt register =>
    rw [hword, exception?] at h
    cases hread : cpu.cop0.read? register with
    | some value => rw [hread] at h; cases h
    | none => rw [hread] at h; cases h; exact .unreadable hfetch hword hread
  | mtc0 rt register =>
    rw [hword] at h
    simp only [exception?, Option.ite_none_right_eq_some, Option.some.injEq, Cop0.refuses,
      Bool.and_eq_true, bne_iff_ne] at h
    obtain ⟨⟨hregister, hvalue⟩, rfl⟩ := h
    exact .unwritable hfetch hword hregister hvalue
  | syscall => rw [hword] at h; cases h; exact .syscall hfetch hword
  | breakpoint => rw [hword] at h; cases h; exact .breakpoint hfetch hword
  | illegal => rw [hword] at h; cases h; exact .undefined hfetch hword
  | missingCop op => rw [hword] at h; cases h; exact .coprocessor hfetch hword
  | _ => rw [hword] at h; cases h

/-- The bus after the instruction fetch, if there is one. -/
def fetchedBus (cpu : Cpu) : Bus :=
  if Width.word.aligns cpu.pc then (cpu.bus.load .word cpu.pc).1 else cpu.bus

/-- The processor on one bank after it has entered an exception. -/
def entered (cpu : Cpu) (exception : Exception) : OneBank :=
  { cpu.fetched.oneBank.raise exception with
    registers := cpu.landed, pending := .none, bus := cpu.fetchedBus }

/-- An exception is all that the step does. -/
theorem Raises.step_eq {exception : Exception} (h : cpu.Raises exception)
    (hbanks : cpu.output = cpu.visible) :
    (cpu.step.1.oneBank, cpu.step.2) = (cpu.entered exception, none) := by
  rcases h.cases with ⟨haligns, rfl⟩ | ⟨word, hfetch, hraise⟩
  · have hbus : cpu.fetchedBus = cpu.bus := if_neg (by rw [haligns]; exact Bool.false_ne_true)
    have hpc : cpu.oneBank.pc = cpu.pc := rfl
    rw [step_oneBank hbanks, OneBank.step, entered, hbus]
    simp only [hpc, haligns]
    rfl
  · have hbus : cpu.fetchedBus = cpu.fetched.bus := if_pos hfetch.aligns
    rw [← exception?_fetched] at hraise
    rw [hfetch.step_oneBank hbanks, OneBank.execute, entered, hbus,
      OneBank.direct?_of_exception hraise, OneBank.load?_of_exception hraise]
    simp only [hraise]
    rfl

/-- What a step that raises an exception leaves, told from the processor before
the step. -/
structure Precise (cpu : Cpu) (exception : Exception) : Prop where
  /-- An exception is no fault of the host. -/
  runs : cpu.step.2 = none
  /-- The registers change only by the load that was on its way. -/
  registers : cpu.step.1.visible = cpu.landed
  /-- No load is left on its way. -/
  pending : cpu.step.1.pending = .none
  /-- The high result word is kept. -/
  hi : cpu.step.1.hi = cpu.hi
  /-- The low result word is kept. -/
  lo : cpu.step.1.lo = cpu.lo
  /-- The bus is as the instruction fetch has left it. -/
  bus : cpu.step.1.bus = cpu.fetchedBus
  /-- The six mode bits are shifted up by one mode, and all others are kept. -/
  status : cpu.step.1.cop0.sr =
    (cpu.cop0.sr &&& ~~~(0x3f : UInt32)) ||| ((cpu.cop0.sr <<< 2) &&& 0x3f)
  /-- The cause is the number of the exception, and bit 31 tells whether the
  instruction was in a delay slot. -/
  cause : cpu.step.1.cop0.cause =
    (exception.code <<< 2) ||| (if cpu.branching then 0x80000000 else 0)
  /-- A misaligned address is kept, and only that. -/
  badAddress : cpu.step.1.cop0.badAddress = exception.badAddress?.getD cpu.cop0.badAddress
  /-- No other register of the coprocessor changes, except where to continue. -/
  others (register : Nat) (h : register ∉ [8, 12, 13, 14]) :
    cpu.step.1.cop0.read? register = cpu.cop0.read? register
  /-- The handler comes next. -/
  handler : cpu.step.1.pc = if bit cpu.cop0.sr 22 then 0xbfc00180 else 0x80000080
  /-- The handler is continued in order. -/
  next : cpu.step.1.nextPc = cpu.step.1.pc + 4
  /-- The first instruction of the handler is in no delay slot. -/
  slot : cpu.step.1.branching = false

/-- With equal banks, every step that raises an exception is precise. -/
theorem Raises.precise {exception : Exception} (h : cpu.Raises exception)
    (hbanks : cpu.output = cpu.visible) : cpu.Precise exception := by
  have hstep := h.step_eq hbanks
  have hmachine : cpu.step.1.oneBank = cpu.entered exception := congrArg Prod.fst hstep
  have hcop0 : cpu.step.1.cop0 = cpu.cop0.enter exception cpu.pc cpu.branching :=
    congrArg OneBank.cop0 hmachine
  have hpc : cpu.step.1.pc = (cpu.cop0.enter exception cpu.pc cpu.branching).handler :=
    congrArg OneBank.pc hmachine
  have hnext : cpu.step.1.nextPc = (cpu.cop0.enter exception cpu.pc cpu.branching).handler + 4 :=
    congrArg OneBank.nextPc hmachine
  exact {
    runs := congrArg Prod.snd hstep
    registers := congrArg OneBank.registers hmachine
    pending := congrArg OneBank.pending hmachine
    hi := congrArg OneBank.hi hmachine
    lo := congrArg OneBank.lo hmachine
    bus := congrArg OneBank.bus hmachine
    status := by rw [hcop0, Cop0.enter_sr]
    cause := by rw [hcop0, Cop0.enter_cause]
    badAddress := by rw [hcop0]; rfl
    others := fun register hregister => by rw [hcop0, Cop0.enter_read? _ _ _ _ hregister]
    handler := by rw [hpc, Cop0.enter_handler]
    next := by rw [hnext, hpc]
    slot := congrArg OneBank.branching hmachine }

/-- Every exception since power on is precise, whether or not the instruction
that raises it is in the delay slot of a branch that was taken. -/
theorem precise_exception {bios : Bios} {exception : Exception} (h : Reachable bios cpu)
    (hraise : cpu.Raises exception) :
    cpu.Precise exception ∧
    ∀ before, Reachable bios before → before.step.1 = cpu →
      (cpu.branching = true ↔ before.TakesBranch) := by
  refine ⟨hraise.precise h.banks.1, ?_⟩
  rintro before hbefore rfl
  exact step_branching hbefore.banks.1

/-- A system call as the first instruction after power on. -/
theorem precise_exception_powerOn :
    (powerOn (.ofWord 0x0000000c)).Precise .syscall ∧
      (powerOn (.ofWord 0x0000000c)).step.1.cop0.cause = 0x20 ∧
      (powerOn (.ofWord 0x0000000c)).step.1.pc = 0x80000080 := by
  have hdecode : (InstructionWord.mk 0x0000000c).decode = .syscall := by decide
  have hprecise : (powerOn (.ofWord 0x0000000c)).Precise .syscall :=
    (precise_exception .powerOn (.syscall (fetches_ofWord _) hdecode)).1
  exact ⟨hprecise, hprecise.cause, hprecise.handler⟩

end Cpu

end Playstation
