import Playstation.Proofs.Cpu.TwoBanks

/-!
# The commit of results and the delay of loads

What a step leaves in the registers has one rule. The operands are what the
registers held at its start, when the load of the previous instruction was
still on its way. That load is written next, and the own result of the
instruction last. An instruction that loads writes nothing itself and leaves
its value on the way; nothing else leaves anything on the way.
-/

namespace Playstation

namespace OneBank

variable {machine : OneBank} {instruction : Instruction}

section Load

variable {op : LoadOp} {rt base : Register} {offset : UInt32}

/-- A load which the bus refuses is a host fault. -/
theorem effect_load_of_error {fault : BusFault}
    (h : (machine.bus.load op.width (op.place (machine.memoryAddress base offset))).2 =
      .error fault) :
    (machine.effect (.load op rt base offset)).2 = some (.bus machine.currentPc fault) := by
  simp only [effect, h]

/-- A load which the bus serves leaves the value it combines. -/
theorem load?_of_ok {value : UInt32}
    (h : (machine.bus.load op.width (op.place (machine.memoryAddress base offset))).2 =
      .ok value) :
    machine.load? (.load op rt base offset) =
      some ⟨rt, op.combine (machine.memoryAddress base offset) (machine.landed.get rt) value⟩ := by
  simp only [load?, h]

end Load

/-- An instruction which meets a host fault leaves no load. -/
theorem load?_of_fault (h : (machine.effect instruction).2.isSome) :
    machine.load? instruction = none := by
  cases instruction with
  | load op rt base offset =>
    simp only [effect] at h
    rw [load?]
    cases haccess : (machine.bus.load op.width (op.place (machine.memoryAddress base offset))).2
      with
    | ok value => simp [haccess] at h
    | error fault => rfl
  | mfc0 rt register => exact absurd h Bool.false_ne_true
  | _ => rfl

/-- What an instruction does does not depend on the load on its way, except
that the loads of a misaligned word are merged with it. -/
structure ReadsBefore (machine : OneBank) (instruction : Instruction) : Prop where
  /-- The exception which is raised. -/
  exception (pending : PendingLoad) :
    { machine with pending }.exception? instruction = machine.exception? instruction
  /-- The register which is written, with its value. -/
  direct (pending : PendingLoad) :
    { machine with pending }.direct? instruction = machine.direct? instruction
  /-- The effect on everything else. -/
  effect (pending : PendingLoad) :
    { machine with pending }.effect instruction =
      ({ (machine.effect instruction).1 with pending }, (machine.effect instruction).2)
  /-- The load which is left. -/
  load (pending : PendingLoad)
    (h : ∀ op rt base offset, instruction = .load op rt base offset → op ≠ .lwl ∧ op ≠ .lwr) :
    { machine with pending }.load? instruction = machine.load? instruction

/-- The effect of an instruction does not depend on the load on its way. -/
theorem effect_withPending (pending : PendingLoad) :
    { machine with pending }.effect instruction =
      ({ (machine.effect instruction).1 with pending }, (machine.effect instruction).2) := by
  cases instruction with
  | store op rt base offset =>
    simp only [effect, storeValue, memoryAddress, register]
    split
    · split
      · split <;> rfl
      · rfl
    · split <;> rfl
  | compare op rs rt offset =>
    by_cases htaken : op.holds (machine.register rs) (machine.register rt) = true
    · have hbranch : machine.effect (.compare op rs rt offset) = (machine.branch offset, none) :=
        congrArg (·, none) (if_pos htaken)
      rw [hbranch]
      exact congrArg (·, none) (if_pos htaken)
    · have hstay : machine.effect (.compare op rs rt offset) = (machine, none) :=
        congrArg (·, none) (if_neg htaken)
      rw [hstay]
      exact congrArg (·, none) (if_neg htaken)
  | sign op rs offset =>
    by_cases htaken : op.holds (machine.register rs) = true
    · have hbranch : machine.effect (.sign op rs offset) = (machine.branch offset, none) :=
        congrArg (·, none) (if_pos htaken)
      rw [hbranch]
      exact congrArg (·, none) (if_pos htaken)
    · have hstay : machine.effect (.sign op rs offset) = (machine, none) :=
        congrArg (·, none) (if_neg htaken)
      rw [hstay]
      exact congrArg (·, none) (if_neg htaken)
  | _ => rfl

/-- Only the loads of a misaligned word see the load on its way, in the
register they are merged with. -/
theorem load?_withPending (pending : PendingLoad)
    (h : ∀ op rt base offset, instruction = .load op rt base offset → op ≠ .lwl ∧ op ≠ .lwr) :
    { machine with pending }.load? instruction = machine.load? instruction := by
  cases instruction with
  | load op rt base offset =>
    obtain ⟨hlwl, hlwr⟩ := h op rt base offset rfl
    cases op with
    | lwl => exact absurd rfl hlwl
    | lwr => exact absurd rfl hlwr
    | _ => rfl
  | _ => rfl

/-- Every instruction reads its operands before the load of the previous one
lands. -/
theorem readsBefore (machine : OneBank) (instruction : Instruction) :
    machine.ReadsBefore instruction where
  exception _ := by cases instruction <;> rfl
  direct _ := by cases instruction <;> rfl
  effect := effect_withPending
  load := load?_withPending

end OneBank

/-- Whether an instruction leaves its result for the next step to write. -/
def Instruction.loads : Instruction → Bool
  | load .. | mfc0 .. => true
  | _ => false

namespace Cpu

variable {cpu : Cpu} {word : InstructionWord}

/-- The registers after the load on its way has been written. -/
def landed (cpu : Cpu) : RegisterBank :=
  cpu.visible.write cpu.pending.register cpu.pending.value

/-- What the step that executes an instruction does to the registers. -/
structure Commits (cpu : Cpu) (instruction : Instruction) : Prop where
  /-- The step does what it does on one bank. -/
  result : (cpu.step.1.oneBank, cpu.step.2) = cpu.fetched.oneBank.execute instruction
  /-- Operands are read before the load on its way lands. -/
  operands : cpu.fetched.oneBank.ReadsBefore instruction
  /-- The load on its way is written, then what the instruction itself writes,
  and no other register changes. -/
  registers : cpu.step.1.visible =
    cpu.landed.writeAny (cpu.fetched.oneBank.direct? instruction)
  /-- A register which neither of the two writes to keeps its value. -/
  kept {register : Register} (hzero : register ≠ 0) (hland : register ≠ cpu.pending.register)
    (hdirect : ∀ value, cpu.fetched.oneBank.direct? instruction ≠ some (register, value)) :
    cpu.step.1.visible.get register = cpu.visible.get register
  /-- A load that succeeds writes no register and leaves its value. -/
  loaded {op : LoadOp} {rt base : Register} {offset : UInt32}
    (hload : instruction = .load op rt base offset) (hraise : cpu.exception? instruction = none)
    (hfault : cpu.step.2 = none) :
    ∃ value, (cpu.fetched.bus.load op.width (op.place (cpu.memoryAddress base offset))).2 =
        .ok value ∧
      cpu.step.1.pending =
        ⟨rt, op.combine (cpu.memoryAddress base offset) (cpu.landed.get rt) value⟩ ∧
      cpu.step.1.visible = cpu.landed
  /-- A readable register of the coprocessor is left in the same way. -/
  moved {rt : Register} {register : Nat} {value : UInt32}
    (hmove : instruction = .mfc0 rt register) (hread : cpu.cop0.read? register = some value) :
    cpu.step.1.pending = ⟨rt, value⟩ ∧ cpu.step.1.visible = cpu.landed
  /-- Every other instruction leaves nothing. -/
  other (h : instruction.loads = false) : cpu.step.1.pending = .none
  /-- An exception writes no register and leaves nothing. -/
  exception (h : (cpu.exception? instruction).isSome) :
    cpu.step.1.visible = cpu.landed ∧ cpu.step.1.pending = .none
  /-- A host fault leaves nothing. -/
  fault (h : cpu.step.2.isSome) : cpu.step.1.pending = .none

/-- Fetching an instruction does not change the exception it will raise. -/
theorem exception?_fetched (cpu : Cpu) (instruction : Instruction) :
    cpu.fetched.oneBank.exception? instruction = cpu.exception? instruction := by
  rw [exception?_eq]
  cases instruction <;> rfl

/-- With equal banks, every step that executes an instruction follows the law. -/
theorem Fetches.commits (hfetch : cpu.Fetches word) (h : cpu.output = cpu.visible) :
    cpu.Commits word.decode := by
  have hresult := hfetch.step_oneBank h
  have hmachine := congrArg Prod.fst hresult
  have hregisters : cpu.step.1.visible =
      cpu.landed.writeAny (cpu.fetched.oneBank.direct? word.decode) :=
    congrArg OneBank.registers hmachine
  have hpending : cpu.step.1.pending = (cpu.fetched.oneBank.load? word.decode).getD .none :=
    congrArg OneBank.pending hmachine
  have hfault : cpu.step.2 = (cpu.fetched.oneBank.execute word.decode).2 :=
    congrArg Prod.snd hresult
  refine ⟨hresult, OneBank.readsBefore _ _, hregisters, ?_, ?_, ?_, ?_, ?_, ?_⟩
  · intro register hzero hland hdirect
    have hlanded : cpu.landed.get register = cpu.visible.get register := by
      rw [landed, RegisterBank.get_write, if_neg hzero, if_neg hland]
    rw [hregisters, ← hlanded]
    cases hwrite : cpu.fetched.oneBank.direct? word.decode with
    | none => rfl
    | some direct =>
      obtain ⟨target, value⟩ := direct
      have hother : register ≠ target := by
        rintro rfl
        exact hdirect value hwrite
      rw [RegisterBank.writeAny, RegisterBank.get_write, if_neg hzero, if_neg hother]
  · intro op rt base offset hload hraise hnone
    rw [← exception?_fetched] at hraise
    rw [hfault, OneBank.execute, hraise, hload] at hnone
    rw [hload] at hregisters hpending
    cases haccess : (cpu.fetched.bus.load op.width (op.place (cpu.memoryAddress base offset))).2
      with
    | error fault =>
      have hrefused : (cpu.fetched.oneBank.effect (.load op rt base offset)).2 =
          some (.bus cpu.pc fault) := OneBank.effect_load_of_error haccess
      rw [hrefused] at hnone
      cases hnone
    | ok value =>
      have hleft : cpu.fetched.oneBank.load? (.load op rt base offset) =
          some ⟨rt, op.combine (cpu.memoryAddress base offset) (cpu.landed.get rt) value⟩ :=
        OneBank.load?_of_ok haccess
      rw [hleft] at hpending
      exact ⟨value, rfl, hpending, hregisters⟩
  · intro rt register value hmove hread
    rw [hmove] at hregisters hpending
    refine ⟨?_, hregisters⟩
    rw [hpending]
    exact congrArg (fun read? => (Option.map (PendingLoad.mk rt) read?).getD .none) hread
  · intro hother
    rw [hpending]
    cases hword : word.decode with
    | load => rw [hword] at hother; cases hother
    | mfc0 => rw [hword] at hother; cases hother
    | _ => rfl
  · intro hsome
    obtain ⟨exception, hraise⟩ := Option.isSome_iff_exists.mp hsome
    rw [← exception?_fetched] at hraise
    rw [hregisters, hpending, OneBank.direct?_of_exception hraise,
      OneBank.load?_of_exception hraise]
    exact ⟨rfl, rfl⟩
  · intro hsome
    rw [hfault, OneBank.execute] at hsome
    cases hraise : cpu.fetched.oneBank.exception? word.decode with
    | some exception => rw [hpending, OneBank.load?_of_exception hraise, Option.getD_none]
    | none =>
      simp only [hraise] at hsome
      rw [hpending, OneBank.load?_of_fault hsome, Option.getD_none]

/-- Between steps the two banks hold the same, and zero in the zero register. -/
theorem Reachable.banks {bios : Bios} (h : Reachable bios cpu) :
    cpu.output = cpu.visible ∧ cpu.visible.get 0 = 0 := by
  induction h with
  | powerOn => exact ⟨rfl, rfl⟩
  | @step before _ ih =>
    obtain ⟨hbanks, hzero⟩ := ih
    refine ⟨step_output hbanks, ?_⟩
    rcases before.step_cases with haligns | ⟨haligns, fault, hfault⟩ | ⟨word, hfetch⟩
    · rw [step_of_misaligned haligns]
      exact RegisterBank.get_zero_write _ _ _
    · rw [step_of_refused haligns hfault]
      exact hzero
    · rw [(hfetch.commits hbanks).registers]
      exact RegisterBank.get_zero_writeAny (RegisterBank.get_zero_write _ _ _) _

/-- A register after the load on its way has been written, which leaves the zero register. -/
theorem Reachable.get_landed {bios : Bios} (h : Reachable bios cpu) (register : Register) :
    cpu.landed.get register =
      if register = cpu.pending.register ∧ register ≠ 0 then cpu.pending.value
      else cpu.register register := by
  rw [landed, RegisterBank.get_write]
  by_cases hregister : register = 0
  · rw [if_pos hregister, if_neg (fun hpending => hpending.2 hregister), hregister]
    exact h.banks.2.symm
  · simp only [hregister, if_false, ne_eq, not_false_eq_true, and_true]
    rfl

end Cpu

end Playstation
