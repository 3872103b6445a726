import Playstation.Proofs.Cop0.RegisterFile
import Playstation.Proofs.Cpu.Operation
import Playstation.Proofs.Cpu.Program

/-!
# The system coprocessor in a run

A step does at most one thing with the system coprocessor: it enters an exception, moves a
value to a register, or returns from an exception. Which one it is can be told from the
processor before the step. So a run leaves in the coprocessor what a sequence of operations
leaves there, and the main statement takes from this what every program finds in it.
-/

namespace Playstation

namespace Cpu

/-- What an instruction which raises no exception does with the system coprocessor, if
anything. -/
def moves? (cpu : Cpu) : Instruction → Option Cop0.Operation
  | .mtc0 rt register => some (.write register (cpu.register rt))
  | .rfe => some .leave
  | _ => none

/-- What the next step does with the system coprocessor, if anything. -/
def control? (cpu : Cpu) : Option Cop0.Operation :=
  if Width.word.aligns cpu.pc then
    match (cpu.bus.load .word cpu.pc).2 with
    | .ok word =>
      match cpu.exception? (InstructionWord.mk word).decode with
      | some exception => some (.enter exception cpu.pc cpu.branching)
      | none => cpu.moves? (InstructionWord.mk word).decode
    | .error _ => none
  else some (.enter (.addressLoadError cpu.pc) cpu.pc cpu.branching)

/-- What the first steps from power on do with the system coprocessor, in order. -/
def controls (bios : Bios) (steps : Nat) : List Cop0.Operation :=
  (List.range steps).filterMap fun done => (after bios done).control?

section Step

variable {cpu : Cpu} {word : InstructionWord}

/-- A misaligned program counter is entered as an exception. -/
theorem control?_of_misaligned (h : Width.word.aligns cpu.pc = false) :
    cpu.control? = some (.enter (.addressLoadError cpu.pc) cpu.pc cpu.branching) := by
  rw [control?, if_neg (by rw [h]; exact Bool.false_ne_true)]

/-- A step which the bus refuses an instruction word does nothing with the coprocessor. -/
theorem control?_of_refused {fault : BusFault} (h : Width.word.aligns cpu.pc = true)
    (hfault : (cpu.bus.load .word cpu.pc).2 = .error fault) : cpu.control? = none := by
  rw [control?, if_pos h, hfault]

/-- An exception of the instruction is entered. -/
theorem Fetches.control?_of_exception {exception : Exception} (h : cpu.Fetches word)
    (hraise : cpu.exception? word.decode = some exception) :
    cpu.control? = some (.enter exception cpu.pc cpu.branching) := by
  rw [control?, if_pos h.aligns, h.loaded]
  simp only [hraise]

/-- Otherwise the instruction may move a value or return. -/
theorem Fetches.control?_of_perform (h : cpu.Fetches word)
    (hraise : cpu.exception? word.decode = none) : cpu.control? = cpu.moves? word.decode := by
  rw [control?, if_pos h.aligns, h.loaded]
  simp only [hraise]

/-- Neither the fetch nor the load that lands makes a difference to the value which is
moved. -/
theorem moves?_landed (cpu : Cpu) (instruction : Instruction) :
    cpu.fetched.landPending.moves? instruction = cpu.moves? instruction := by
  cases instruction <;> rfl

/-- What an instruction which raises no exception leaves in the coprocessor. -/
theorem perform_cop0 (cpu : Cpu) (instruction : Instruction) :
    (cpu.perform instruction).1.cop0 =
      ((cpu.moves? instruction).map cpu.cop0.perform).getD cpu.cop0 := by
  cases instruction with
  | load op rt base offset =>
    simp only [perform, performLoad_eq]
    split <;> rfl
  | store op rt base offset =>
    simp only [perform, performStore_eq]
    rfl
  | compare op rs rt offset =>
    simp only [perform, compute]
    split <;> rfl
  | sign op rs offset =>
    simp only [perform, compute]
    cases op.links <;> cases op.holds (cpu.register rs) <;> rfl
  | _ => rfl

/-- What a step leaves in the coprocessor. -/
theorem step_cop0 (cpu : Cpu) :
    cpu.step.1.cop0 = (cpu.control?.map cpu.cop0.perform).getD cpu.cop0 := by
  rcases cpu.step_cases with haligns | ⟨haligns, fault, hfault⟩ | ⟨word, hfetch⟩
  · rw [step_of_misaligned haligns, control?_of_misaligned haligns]
    rfl
  · rw [step_of_refused haligns hfault, control?_of_refused haligns hfault]
    rfl
  · cases hraise : cpu.exception? word.decode with
    | some exception =>
      rw [hfetch.step_of_exception hraise, hfetch.control?_of_exception hraise]
      rfl
    | none =>
      rw [hfetch.step_of_perform hraise, hfetch.control?_of_perform hraise, ← moves?_landed]
      exact perform_cop0 _ _

/-- What is entered is raised. -/
theorem raises_of_control? {exception : Exception} {pc : UInt32} {inDelaySlot : Bool}
    (h : cpu.control? = some (.enter exception pc inDelaySlot)) : cpu.Raises exception := by
  rcases cpu.step_cases with haligns | ⟨haligns, fault, hfault⟩ | ⟨word, hfetch⟩
  · rw [control?_of_misaligned haligns] at h
    cases h
    exact .fetch haligns
  · rw [control?_of_refused haligns hfault] at h
    cases h
  · cases hraise : cpu.exception? word.decode with
    | some other =>
      rw [hfetch.control?_of_exception hraise] at h
      cases h
      exact hfetch.raises hraise
    | none =>
      rw [hfetch.control?_of_perform hraise] at h
      unfold moves? at h
      split at h <;> cases h

/-- A step which raises no exception leaves all that describes the last one, and a step
which raises none of a misaligned address leaves the address. -/
theorem step_describes (cpu : Cpu) :
    ((∀ exception, ¬cpu.Raises exception) →
      cpu.step.1.cop0.epc = cpu.cop0.epc ∧
      bits cpu.step.1.cop0.cause 2 6 = bits cpu.cop0.cause 2 6 ∧
      bit cpu.step.1.cop0.cause 31 = bit cpu.cop0.cause 31) ∧
    ((∀ exception, cpu.Raises exception → exception.badAddress? = none) →
      cpu.step.1.cop0.badAddress = cpu.cop0.badAddress) := by
  rw [step_cop0]
  cases hcontrol : cpu.control? with
  | none => exact ⟨fun _ => ⟨rfl, rfl, rfl⟩, fun _ => rfl⟩
  | some operation =>
    cases hentry : operation.isEntry with
    | false =>
      obtain ⟨hepc, haddress, hcode, hslot⟩ := Cop0.perform_of_not_isEntry cpu.cop0 hentry
      exact ⟨fun _ => ⟨hepc, hcode, hslot⟩, fun _ => haddress⟩
    | true =>
      cases operation with
      | enter exception pc inDelaySlot =>
        have hraise := raises_of_control? hcontrol
        refine ⟨fun hnone => absurd hraise (hnone exception), fun hother => ?_⟩
        exact congrArg (·.getD cpu.cop0.badAddress) (hother exception hraise)
      | leave | write register value => cases hentry

end Step

/-- One more step does at most one thing more. -/
theorem controls_succ (bios : Bios) (steps : Nat) :
    controls bios (steps + 1) = controls bios steps ++ (after bios steps).control?.toList := by
  rw [controls, List.range_succ, List.filterMap_append, ← controls, List.filterMap_cons]
  cases (after bios steps).control? <;> rfl

/-- A run leaves in the coprocessor what its operations leave there. -/
theorem cop0_after (bios : Bios) (steps : Nat) :
    (after bios steps).cop0 = Cop0.powerOn.performAll (controls bios steps) := by
  induction steps with
  | zero => rfl
  | succ steps ih =>
    rw [after_succ, step_cop0, controls_succ, ih]
    cases (after bios steps).control? with
    | none => rw [Option.toList_none, List.append_nil]; rfl
    | some operation => exact (Cop0.performAll_concat _ _ operation).symm

/-- After any number of steps from power on, of the sixteen registers of the coprocessor
those of the breakpoints and those without a meaning are zero, whatever has been moved to
them, and the last one is the number of the processor; the cause has its shape; and its
software requests are those which were moved there last since an exception was entered.
The next step changes the address to continue at, the number of the exception or the mark
of a delay slot only if it raises an exception, and the misaligned address only if it
raises one of those which have such an address. -/
theorem coprocessor_after (bios : Bios) (steps : Nat) :
    let cpu := after bios steps
    let operations := controls bios steps
    let file := RegisterFile.powerOn.performAll operations
    (∀ register ∈ List.range 8 ++ [9, 10, 11], file[register]? = some 0) ∧ file[15]? = some 2 ∧
    (∀ register value, cpu.cop0.read? register = some value → file[register]? = some value) ∧
    cpu.cop0.cause &&& ~~~0x8000037c = 0 ∧
    bits cpu.cop0.cause 2 6 ∈ [0, 4, 5, 8, 9, 10, 11, 12] ∧
    bits cpu.cop0.cause 8 9 = Cop0.lastRequests operations ∧
    (cpu.step.1.cop0.epc ≠ cpu.cop0.epc ∨
        bits cpu.step.1.cop0.cause 2 6 ≠ bits cpu.cop0.cause 2 6 ∨
        bit cpu.step.1.cop0.cause 31 ≠ bit cpu.cop0.cause 31 →
      ∃ exception, cpu.Raises exception) ∧
    (cpu.step.1.cop0.badAddress ≠ cpu.cop0.badAddress →
      ∃ address, cpu.Raises (.addressLoadError address) ∨
        cpu.Raises (.addressStoreError address)) := by
  intro cpu operations file
  have hcop0 : cpu.cop0 = Cop0.powerOn.performAll operations := cop0_after bios steps
  have hfile : file = cpu.cop0.registers := by
    rw [hcop0]
    exact (Cop0.registers_performAll operations).symm
  obtain ⟨hzero, hnumber⟩ := cpu.cop0.registers_constant
  have hshape : Cop0.CauseShape cpu.cop0.cause := hcop0 ▸ Cop0.causeShape_performAll operations
  obtain ⟨hdescribes, haddress⟩ := cpu.step_describes
  rw [hfile]
  refine ⟨hzero, hnumber, fun register value => Cop0.registers_of_read?, hshape.unused, hshape.code,
    hcop0 ▸ Cop0.requests_performAll operations, ?_, ?_⟩
  · intro hchange
    by_contra hnone
    obtain ⟨hepc, hcode, hslot⟩ := hdescribes (not_exists.mp hnone)
    rcases hchange with h | h | h <;> contradiction
  · intro hchange
    by_contra hnone
    refine hchange (haddress fun exception hraise => ?_)
    cases exception with
    | addressLoadError address => exact absurd ⟨address, .inl hraise⟩ hnone
    | addressStoreError address => exact absurd ⟨address, .inr hraise⟩ hnone
    | _ => rfl

end Cpu

end Playstation
