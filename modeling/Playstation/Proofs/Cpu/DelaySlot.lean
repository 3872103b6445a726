import Playstation.Proofs.Cpu.PreciseException
import Playstation.Proofs.Cpu.Program

/-!
# Delay slots and where to continue

The instruction after a branch that is taken is in its delay slot, and an
exception there continues with the branch. The processor keeps a mark for this
which is set in one step, moved in the next and used by the exception. Over
runs in which the bus refuses no instruction word, the main statement ties the
mark to the branch: the program counters are in order unless the last step
took a branch, and the cause and the address which an exception leaves behind
tell the same of the step before.
-/

namespace Playstation

namespace OneBank

variable {machine : OneBank} {instruction : Instruction}

/-- Stores do not move the program counters. -/
theorem storeValue_pcs (w : Width) (address value : UInt32) :
    (machine.storeValue w address value).1.pc = machine.pc ∧
      (machine.storeValue w address value).1.nextPc = machine.nextPc := by
  rw [storeValue]
  split <;> exact ⟨rfl, rfl⟩

/-- The delay slot comes next, whatever an instruction does. -/
theorem effect_pc : (machine.effect instruction).1.pc = machine.pc := by
  cases instruction with
  | store op rt base offset =>
    simp only [effect]
    split
    · split
      · exact (storeValue_pcs _ _ _).1
      · rfl
    · exact (storeValue_pcs _ _ _).1
  | compare op rs rt offset | sign op rs offset =>
    simp only [effect]
    split <;> rfl
  | _ => rfl

/-- What comes after the delay slot is changed by the branches that are
taken. -/
theorem effect_nextPc (h : machine.takes instruction = false) :
    (machine.effect instruction).1.nextPc = machine.nextPc := by
  cases instruction with
  | store op rt base offset =>
    simp only [effect]
    split
    · split
      · exact (storeValue_pcs _ _ _).2
      · rfl
    · exact (storeValue_pcs _ _ _).2
  | compare op rs rt offset | sign op rs offset =>
    rw [takes] at h
    simp only [effect, h, Bool.false_eq_true, if_false]
  | j | jal | jr | jalr => cases h
  | _ => rfl

/-- Program counters that are in order stay so, unless a branch is taken. -/
theorem execute_nextPc (horder : machine.nextPc = machine.pc + 4)
    (htakes : machine.takes instruction = false) :
    (machine.execute instruction).1.nextPc = (machine.execute instruction).1.pc + 4 := by
  rw [execute]
  cases machine.exception? instruction with
  | some exception => rfl
  | none =>
    change (machine.effect instruction).1.nextPc = (machine.effect instruction).1.pc + 4
    rw [effect_nextPc htakes, effect_pc, horder]

/-- A branch that is taken goes on with its delay slot. -/
theorem execute_pc_of_takes (h : machine.takes instruction = true) :
    (machine.execute instruction).1.pc = machine.pc := by
  rw [execute]
  cases hraise : machine.exception? instruction with
  | some exception =>
    rw [takes_of_exception hraise] at h
    cases h
  | none => exact effect_pc

end OneBank

namespace Cpu

variable {cpu : Cpu}

/-- Whether the bus refuses the instruction word of the next step. -/
def FetchRefused (cpu : Cpu) : Prop :=
  Width.word.aligns cpu.pc = true ∧ ∃ fault, (cpu.bus.load .word cpu.pc).2 = .error fault

/-- A word that is found is not refused. -/
theorem Fetches.not_refused {word : InstructionWord} (h : cpu.Fetches word) :
    ¬cpu.FetchRefused := by
  rintro ⟨-, fault, hfault⟩
  rw [h.loaded] at hfault
  cases hfault

/-- Unless a step takes a branch, it leaves the program counters in order. -/
theorem step_nextPc (hbanks : cpu.output = cpu.visible) (hfetch : ¬cpu.FetchRefused)
    (hbranch : ¬cpu.TakesBranch) : cpu.step.1.nextPc = cpu.step.1.pc + 4 := by
  rcases cpu.step_cases with haligns | hrefused | ⟨word, hword⟩
  · rw [step_of_misaligned haligns]
    rfl
  · exact absurd hrefused hfetch
  · have hmachine : cpu.step.1.oneBank = (cpu.fetched.oneBank.execute word.decode).1 :=
      congrArg Prod.fst (hword.step_oneBank hbanks)
    have htakes : cpu.fetched.oneBank.takes word.decode = false := by
      rw [takes_fetched]
      exact Bool.eq_false_of_not_eq_true fun htakes => hbranch ⟨word, hword, htakes⟩
    change cpu.step.1.oneBank.nextPc = cpu.step.1.oneBank.pc + 4
    rw [hmachine]
    exact OneBank.execute_nextPc rfl htakes

/-- A step that takes a branch goes on with the delay slot. -/
theorem TakesBranch.step_pc (hbanks : cpu.output = cpu.visible) (h : cpu.TakesBranch) :
    cpu.step.1.pc = cpu.nextPc := by
  obtain ⟨word, hword, htakes⟩ := h
  have hmachine : cpu.step.1.oneBank = (cpu.fetched.oneBank.execute word.decode).1 :=
    congrArg Prod.fst (hword.step_oneBank hbanks)
  rw [← takes_fetched] at htakes
  change cpu.step.1.oneBank.pc = cpu.nextPc
  rw [hmachine]
  exact OneBank.execute_pc_of_takes htakes

/-- An exception changes the system coprocessor by entering it, at the address
of the instruction and with the mark of the delay slot. -/
theorem Raises.step_cop0 {exception : Exception} (h : cpu.Raises exception)
    (hbanks : cpu.output = cpu.visible) :
    cpu.step.1.cop0 = cpu.cop0.enter exception cpu.pc cpu.branching :=
  congrArg (fun after => OneBank.cop0 after.1) (h.step_eq hbanks)

/-- A run from power on in which the bus refuses no instruction word, with the
processors from which its steps were made, the last one first. -/
inductive Run (bios : Bios) : List Cpu → Cpu → Prop where
  /-- Nothing has been run at power on. -/
  | powerOn : Run bios [] (powerOn bios)
  /-- One more step. -/
  | step {earlier : List Cpu} {cpu : Cpu} (before : Run bios earlier cpu)
    (hfetch : ¬cpu.FetchRefused) : Run bios (cpu :: earlier) cpu.step.1

/-- Whether the last of some steps executed a branch that was taken. -/
def FollowsBranch (earlier : List Cpu) : Prop := ∃ before ∈ earlier.head?, before.TakesBranch

namespace Run

variable {bios : Bios} {earlier : List Cpu}

/-- The processors of a run are reached from power on. -/
theorem reachable (h : Run bios earlier cpu) : Reachable bios cpu := by
  induction h with
  | powerOn => exact .powerOn
  | step _ _ ih => exact .step ih

/-- The mark of a delay slot says that the last step took a branch. -/
theorem branching_iff (h : Run bios earlier cpu) :
    cpu.branching = true ↔ FollowsBranch earlier := by
  cases h with
  | powerOn =>
    constructor
    · intro hmark
      cases hmark
    · rintro ⟨before, hbefore, -⟩
      cases hbefore
  | @step earlier before hrun _ =>
    rw [step_branching hrun.reachable.banks.1]
    constructor
    · intro hbranch
      exact ⟨before, rfl, hbranch⟩
    · rintro ⟨other, hother, hbranch⟩
      cases hother
      exact hbranch

/-- The program counters are in order unless the last step took a branch. -/
theorem nextPc_eq (h : Run bios earlier cpu) (hbranch : ¬FollowsBranch earlier) :
    cpu.nextPc = cpu.pc + 4 := by
  cases h with
  | powerOn => rfl
  | @step earlier before hrun hfetch =>
    exact step_nextPc hrun.reachable.banks.1 hfetch fun htakes => hbranch ⟨before, rfl, htakes⟩

/-- A branch which is in no delay slot itself is four bytes before its own. -/
theorem branch_pc {before : Cpu} (h : Run bios (before :: earlier) cpu)
    (hbranch : before.TakesBranch) (hslot : ¬FollowsBranch earlier) :
    before.pc = cpu.pc - 4 := by
  cases h with
  | step hrun _ =>
    rw [hbranch.step_pc hrun.reachable.banks.1, hrun.nextPc_eq hslot, UInt32.add_sub_cancel]

end Run

/-- Over every run in which the bus refuses no instruction word, the program
counters are in order unless the last step took a branch. An exception of the
next step sets the top bit of the cause and continues four bytes before its
own instruction if the last step took a branch, and otherwise clears the bit
and continues with its own instruction. Four bytes before is the branch, unless
that was in a delay slot itself; whoever continues there and finds the same
word fetches the branch again. -/
theorem exception_continues {bios : Bios} {earlier : List Cpu} (h : Run bios earlier cpu) :
    (¬FollowsBranch earlier → cpu.nextPc = cpu.pc + 4) ∧
    ∀ exception, cpu.Raises exception →
      (FollowsBranch earlier →
        bit cpu.step.1.cop0.cause 31 = true ∧ cpu.step.1.cop0.epc = cpu.pc - 4) ∧
      (¬FollowsBranch earlier →
        bit cpu.step.1.cop0.cause 31 = false ∧ cpu.step.1.cop0.epc = cpu.pc) ∧
      ∀ before rest, earlier = before :: rest → before.TakesBranch → ¬FollowsBranch rest →
        cpu.step.1.cop0.epc = before.pc ∧
        ∀ (back : Cpu) (word : InstructionWord), before.Fetches word →
          back.pc = cpu.step.1.cop0.epc → (back.bus.load .word back.pc).2 = .ok word.value →
          back.Fetches word := by
  refine ⟨h.nextPc_eq, ?_⟩
  intro exception hraise
  have hcop0 := hraise.step_cop0 h.reachable.banks.1
  have hslot : FollowsBranch earlier →
      bit cpu.step.1.cop0.cause 31 = true ∧ cpu.step.1.cop0.epc = cpu.pc - 4 := by
    intro hbranch
    rw [hcop0, Cop0.bit_enter_cause, h.branching_iff.mpr hbranch]
    exact ⟨rfl, rfl⟩
  refine ⟨hslot, ?_, ?_⟩
  · intro hbranch
    have hmark : cpu.branching = false :=
      Bool.eq_false_of_not_eq_true fun hmark => hbranch (h.branching_iff.mp hmark)
    rw [hcop0, Cop0.bit_enter_cause, hmark]
    exact ⟨rfl, rfl⟩
  · rintro before rest rfl hbranch hrest
    have hepc : cpu.step.1.cop0.epc = before.pc := by
      rw [h.branch_pc hbranch hrest]
      exact (hslot ⟨before, rfl, hbranch⟩).2
    refine ⟨hepc, ?_⟩
    intro back word hword hback hloaded
    refine ⟨?_, hloaded⟩
    rw [hback, hepc]
    exact hword.aligns

/-- A system call in the delay slot of a jump, which is the first instruction
after power on. -/
theorem exception_continues_powerOn :
    Run (.ofWords [0x08000000, 0x0000000c]) [after (.ofWords [0x08000000, 0x0000000c]) 0]
        (after (.ofWords [0x08000000, 0x0000000c]) 1) ∧
      (after (.ofWords [0x08000000, 0x0000000c]) 0).TakesBranch ∧
      (after (.ofWords [0x08000000, 0x0000000c]) 1).Raises .syscall ∧
      bit (after (.ofWords [0x08000000, 0x0000000c]) 2).cop0.cause 31 = true ∧
      (after (.ofWords [0x08000000, 0x0000000c]) 2).cop0.epc = 0xbfc00000 := by
  have hjump : (InstructionWord.mk 0x08000000).decode = .j 0 := by decide
  have hcall : (InstructionWord.mk 0x0000000c).decode = .syscall := by decide
  obtain ⟨bios, hprogram⟩ : ∃ bios, Bios.ofWords [0x08000000, 0x0000000c] = bios := ⟨_, rfl⟩
  rw [hprogram]
  have hfirst : (after bios 0).Fetches ⟨0x08000000⟩ :=
    fetches_ofWords (i := 0) rfl hprogram.symm (by decide) rfl
  have hbranch : (after bios 0).TakesBranch := ⟨_, hfirst, by rw [hjump]; rfl⟩
  have hrun : Run bios [after bios 0] (after bios 1) := .step .powerOn hfirst.not_refused
  have hmachine : (after bios 1).oneBank =
      ((OneBank.inOrder 1 (Vector.replicate 32 0) .powerOn (.powerOn bios)).execute (.j 0)).1 := by
    rw [oneBank_after_succ, oneBank_after_zero,
      OneBank.step_inOrder hprogram.symm (by decide) rfl, hjump]
  have hsecond : (after bios 1).Fetches ⟨0x0000000c⟩ :=
    fetches_ofWords (i := 1) (congrArg OneBank.pc hmachine)
      ((congrArg (fun machine => machine.bus.bios) hmachine).trans hprogram.symm) (by decide) rfl
  have hraise : (after bios 1).Raises .syscall := .syscall hsecond hcall
  have hlaw := (exception_continues hrun).2 .syscall hraise
  have hnothing : ¬FollowsBranch [] := by
    rintro ⟨before, hbefore, -⟩
    cases hbefore
  rw [after_succ bios 1]
  exact ⟨hrun, hbranch, hraise, (hlaw.1 ⟨_, rfl, hbranch⟩).1, (hlaw.2.2 _ _ rfl hbranch hnothing).1⟩

end Cpu

end Playstation
