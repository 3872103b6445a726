import Playstation.Proofs.Cpu.OneBank

/-!
# Two banks do what one bank does

Between steps both banks of the processor hold the same values, and a step
does what the machine with one bank does. So the delay of loads and the commit
of results have one rule: operands are read before anything is written, the
pending load is written next, and the own result of the instruction last.
-/

namespace Playstation

/-- A write leaves zero in the zero register. -/
theorem RegisterBank.get_zero_write (bank : RegisterBank) (register : Register)
    (value : UInt32) : (bank.write register value).get 0 = 0 :=
  Vector.getElem_set_self _

/-- A write which there may be leaves zero where zero was. -/
theorem RegisterBank.get_zero_writeAny {bank : RegisterBank} (h : bank.get 0 = 0)
    (write? : Option (Register × UInt32)) : (bank.writeAny write?).get 0 = 0 := by
  rcases write? with _ | ⟨register, value⟩
  · exact h
  · exact get_zero_write bank register value

/-- A write is read back from its own register, unless that is the zero
register, and every other register keeps its value. -/
theorem RegisterBank.get_write (bank : RegisterBank) (register other : Register)
    (value : UInt32) :
    (bank.write register value).get other =
      if other = 0 then 0 else if other = register then value else bank.get other := by
  change ((bank.set register value register.isLt).set 0 0 (by decide))[other.val] = _
  by_cases hzero : other = 0
  · subst hzero
    rw [if_pos rfl]
    exact Vector.getElem_set_self _
  · have hne : 0 ≠ other.val := fun h => hzero (Fin.ext h.symm)
    rw [if_neg hzero, Vector.getElem_set_ne _ _ hne]
    by_cases hsame : other = register
    · subst hsame
      rw [if_pos rfl]
      exact Vector.getElem_set_self _
    · have hne : register.val ≠ other.val := fun h => hsame (Fin.ext h.symm)
      rw [if_neg hsame, Vector.getElem_set_ne _ _ hne]
      rfl

namespace OneBank

variable {machine : OneBank} {instruction : Instruction} {exception : Exception}

/-- An instruction which raises an exception writes no register. -/
theorem direct?_of_exception (h : machine.exception? instruction = some exception) :
    machine.direct? instruction = none := by
  cases instruction with
  | alu op rd rs rt =>
    simp only [exception?, Option.ite_none_right_eq_some] at h
    rw [direct?, if_pos h.1]
  | immediate op rt rs value =>
    simp only [exception?, Option.ite_none_right_eq_some] at h
    rw [direct?, if_pos h.1]
  | _ => first | rfl | exact absurd h (by simp [exception?])

/-- An instruction which raises an exception leaves no load. -/
theorem load?_of_exception (h : machine.exception? instruction = some exception) :
    machine.load? instruction = none := by
  cases instruction with
  | load op rt base offset =>
    simp only [exception?, Option.ite_none_left_eq_some] at h
    simp only [load?, Bus.load, Bus.peek, if_neg h.1]
  | mfc0 rt register =>
    cases hread : machine.cop0.read? register with
    | none => rw [load?, hread, Option.map_none]
    | some value => simp [exception?, hread] at h
  | _ => rfl

end OneBank

namespace Cpu

variable {cpu : Cpu}

/-- A register after the load of the previous instruction has landed. -/
theorem get_landPending (cpu : Cpu) (register : Register) :
    cpu.landPending.output.get register =
      if register = 0 then 0
      else if register = cpu.pending.register then cpu.pending.value
      else cpu.output.get register :=
  RegisterBank.get_write _ _ _ _

/-- With equal banks the landed load is a write to the one bank. -/
theorem landPending_eq (h : cpu.output = cpu.visible) :
    cpu.landPending = { cpu with output := cpu.oneBank.landed, pending := .none } := by
  rw [landPending, setRegister, h]
  rfl

/-- Exceptions are decided by the visible registers. -/
theorem exception?_eq (cpu : Cpu) (instruction : Instruction) :
    cpu.exception? instruction = cpu.oneBank.exception? instruction := by
  cases instruction <;> rfl

/-- A step as it looks on one bank, from the processor and the fault that
executing an instruction leaves. -/
def seen (after : Cpu × Option HostFault) : OneBank × Option HostFault :=
  (after.1.commit.oneBank, after.2)

section Landed

-- The load of the previous instruction has landed in `bank`, which is about to become visible.
variable (cpu : Cpu) (bank : RegisterBank)

/-- Storing a value is the same on one bank. -/
theorem seen_storeValue (w : Width) (address value : UInt32) :
    seen ({ cpu with output := bank, pending := .none }.storeValue w address value) =
      ({ (cpu.oneBank.storeValue w address value).1 with registers := bank, pending := .none },
        (cpu.oneBank.storeValue w address value).2) := by
  have hisolated : cpu.oneBank.cop0.cacheIsolated = cpu.cop0.cacheIsolated := rfl
  rw [storeValue, OneBank.storeValue, hisolated]
  cases cpu.cop0.cacheIsolated with
  | true => rfl
  | false =>
    simp only [onBus_eq, Bool.false_eq_true, if_false]
    rfl

/-- Storing a register is the same on one bank. -/
theorem seen_performStore (op : StoreOp) (rt base : Register) (offset : UInt32) :
    seen ({ cpu with output := bank, pending := .none }.performStore op rt base offset) =
      ({ (cpu.oneBank.effect (.store op rt base offset)).1 with
          registers := bank, pending := .none },
        (cpu.oneBank.effect (.store op rt base offset)).2) := by
  have haddress : cpu.oneBank.memoryAddress base offset = cpu.memoryAddress base offset := rfl
  have hvalue : cpu.oneBank.register rt = cpu.register rt := rfl
  have hbus : cpu.oneBank.bus = cpu.bus := rfl
  simp only [performStore, OneBank.effect, haddress, hvalue, hbus]
  cases op.merges with
  | false => exact seen_storeValue cpu bank _ _ _
  | true =>
    have haddress (bank : RegisterBank) :
        ({ cpu with output := bank, pending := .none } : Cpu).memoryAddress base offset =
          cpu.memoryAddress base offset := rfl
    simp only [haddress, if_true]
    cases cpu.bus.peek .word (op.place (cpu.memoryAddress base offset)) with
    | error fault => rfl
    | ok old => exact seen_storeValue cpu bank _ _ _

end Landed

/-- An instruction without exception does what it does on one bank. -/
theorem seen_perform (h : cpu.output = cpu.visible) {instruction : Instruction}
    (hnone : cpu.oneBank.exception? instruction = none) :
    seen (cpu.landPending.perform instruction) =
      ({ (cpu.oneBank.effect instruction).1 with
          registers := cpu.oneBank.landed.writeAny (cpu.oneBank.direct? instruction)
          pending := (cpu.oneBank.load? instruction).getD .none },
        (cpu.oneBank.effect instruction).2) := by
  rw [landPending_eq h]
  cases instruction with
  | alu op rd rs rt =>
    have htraps : ¬op.traps (cpu.oneBank.register rs) (cpu.oneBank.register rt) = true := by
      intro htraps
      simp [OneBank.exception?, htraps] at hnone
    rw [OneBank.direct?, if_neg htraps]
    rfl
  | immediate op rt rs value =>
    have htraps : ¬op.traps (cpu.oneBank.register rs) value = true := by
      intro htraps
      simp [OneBank.exception?, htraps] at hnone
    rw [OneBank.direct?, if_neg htraps]
    rfl
  | load op rt base offset =>
    simp only [perform, performLoad, onBus_eq, memoryAddress, register, OneBank.effect,
      OneBank.load?, OneBank.memoryAddress, OneBank.register, oneBank]
    rcases cpu.bus.load op.width (op.place (cpu.visible.get base + offset)) with
      ⟨bus, fault | value⟩ <;> rfl
  | store op rt base offset => exact seen_performStore cpu _ op rt base offset
  | compare op rs rt offset =>
    by_cases htaken : op.holds (cpu.register rs) (cpu.register rt) = true
    · have heffect : cpu.oneBank.effect (.compare op rs rt offset) =
          (cpu.oneBank.branch offset, none) := congrArg (·, none) (if_pos htaken)
      rw [heffect]
      exact congrArg (fun cpu => seen (cpu, none)) (if_pos htaken)
    · have heffect : cpu.oneBank.effect (.compare op rs rt offset) = (cpu.oneBank, none) :=
        congrArg (·, none) (if_neg htaken)
      rw [heffect]
      exact congrArg (fun cpu => seen (cpu, none)) (if_neg htaken)
  | sign op rs offset =>
    -- The return address is written to the bank which operands are not read from.
    have hlinked (bank : RegisterBank) :
        (if op.links then ({ cpu with output := bank, pending := .none } : Cpu).setRegister .ra
            cpu.nextPc else { cpu with output := bank, pending := .none }) =
          { cpu with
            output := bank.writeAny (cpu.oneBank.direct? (.sign op rs offset))
            pending := .none } := by
      rw [OneBank.direct?]
      split <;> rfl
    by_cases htaken : op.holds (cpu.register rs) = true
    · have heffect : cpu.oneBank.effect (.sign op rs offset) = (cpu.oneBank.branch offset, none) :=
        congrArg (·, none) (if_pos htaken)
      rw [heffect]
      refine (congrArg (fun cpu => seen (cpu, none)) (if_pos htaken)).trans ?_
      exact congrArg (fun cpu => seen (cpu.branch offset, none)) (hlinked cpu.oneBank.landed)
    · have heffect : cpu.oneBank.effect (.sign op rs offset) = (cpu.oneBank, none) :=
        congrArg (·, none) (if_neg htaken)
      rw [heffect]
      refine (congrArg (fun cpu => seen (cpu, none)) (if_neg htaken)).trans ?_
      exact congrArg (fun cpu => seen (cpu, none)) (hlinked cpu.oneBank.landed)
  | mfc0 rt register =>
    simp only [perform, compute, OneBank.effect, OneBank.load?, oneBank]
    cases hread : cpu.cop0.read? register with
    | some value => rfl
    | none => simp [OneBank.exception?, oneBank, hread] at hnone
  | _ => rfl

/-- An instruction does what it does on one bank, where the load of the
previous instruction lands after the operands have been read. -/
theorem seen_execute (h : cpu.output = cpu.visible) (instruction : Instruction) :
    seen (cpu.landPending.execute instruction) = cpu.oneBank.execute instruction := by
  have hexception : cpu.landPending.exception? instruction =
      cpu.oneBank.exception? instruction := by
    rw [exception?_eq, landPending_eq h]
    cases instruction <;> rfl
  rw [execute, hexception, OneBank.execute]
  cases hraise : cpu.oneBank.exception? instruction with
  | none => exact seen_perform h hraise
  | some exception =>
    simp only [OneBank.direct?_of_exception hraise, OneBank.load?_of_exception hraise,
      landPending_eq h]
    rfl

/-- The step that executes an instruction does what it does on one bank. -/
theorem Fetches.step_oneBank {word : InstructionWord} (hfetch : cpu.Fetches word)
    (h : cpu.output = cpu.visible) :
    (cpu.step.1.oneBank, cpu.step.2) = cpu.fetched.oneBank.execute word.decode := by
  have hseen : seen (cpu.fetched.landPending.execute word.decode) =
      cpu.fetched.oneBank.execute word.decode := @seen_execute cpu.fetched h word.decode
  rw [hfetch.step_eq]
  exact hseen

/-- With equal banks a step does what the machine with one bank does. -/
theorem step_oneBank (h : cpu.output = cpu.visible) :
    (cpu.step.1.oneBank, cpu.step.2) = cpu.oneBank.step := by
  have hpc : cpu.oneBank.pc = cpu.pc := rfl
  have hbus : cpu.oneBank.bus = cpu.bus := rfl
  rw [OneBank.step]
  simp only [hpc, hbus]
  rcases cpu.step_cases with haligns | ⟨haligns, fault, hfault⟩ | ⟨word, hfetch⟩
  · have hland : cpu.begin.landPending =
        { cpu.begin with output := cpu.begin.oneBank.landed, pending := .none } :=
      landPending_eq h
    rw [step_of_misaligned haligns, haligns, hland]
    rfl
  · have hload : cpu.bus.load .word cpu.pc = ((cpu.bus.load .word cpu.pc).1, .error fault) := by
      rw [← hfault]
    rw [step_of_refused haligns hfault, haligns, hload]
    rfl
  · have hload : cpu.bus.load .word cpu.pc =
        ((cpu.bus.load .word cpu.pc).1, .ok word.value) := by
      rw [← hfetch.loaded]
    rw [hfetch.step_oneBank h, hfetch.aligns, hload]
    rfl

/-- Every step ends with equal banks. -/
theorem step_output (h : cpu.output = cpu.visible) : cpu.step.1.output = cpu.step.1.visible := by
  rcases cpu.step_cases with haligns | ⟨haligns, fault, hfault⟩ | ⟨word, hfetch⟩
  · rw [step_of_misaligned haligns]
    rfl
  · rw [step_of_refused haligns hfault]
    exact h
  · rw [hfetch.step_eq]
    rfl

end Cpu

end Playstation
