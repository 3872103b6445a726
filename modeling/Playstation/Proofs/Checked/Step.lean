import Playstation.Proofs.Checked.Cpu

/-!
# No step is without a result

The checked step fails if any operation on its way has no result: an index
past the end, a sum, difference or product that does not fit, a quotient that
does not exist, a shift as long as the word, or a bit position outside of it.
In every state that is reached from power on it succeeds with the result of
the step of the machine, whatever the boot ROM contains and whichever host
faults came before. The only invariant it takes is the valid phase of the
graphics processor.
-/

namespace Playstation

namespace Cpu

/-- Run one instruction. -/
def checkedStep (cpu : Cpu) : Option (Cpu × Option HostFault) := do
  let cpu := cpu.begin
  if Width.word.aligns cpu.pc then
    match ← cpu.bus.checkedRead .word cpu.pc true with
    | (bus, .ok word) =>
      let instruction ← (InstructionWord.mk word).checkedDecode
      let cpu ← checkedLandPending { cpu with bus, pc := cpu.nextPc, nextPc := cpu.nextPc + 4 }
      let (cpu, fault) ← cpu.checkedExecute instruction
      return (cpu.commit, fault)
    | (bus, .error fault) => return ({ cpu with bus }, some (.bus cpu.currentPc fault))
  else
    let cpu ← cpu.checkedLandPending
    let cpu ← cpu.checkedRaise (.addressLoadError cpu.pc)
    return (cpu.commit, none)

variable {cpu : Cpu}

/-- Every step can be made, and leaves the phase valid. -/
theorem checkedStep_eq (h : cpu.bus.gpu.phase.Valid) :
    cpu.checkedStep = some cpu.step ∧ cpu.step.1.bus.gpu.phase.Valid := by
  have hload : cpu.begin.bus.checkedRead .word cpu.begin.pc true =
      some (cpu.bus.load .word cpu.pc) := Bus.checkedLoad_eq h .word cpu.pc
  have hvalid := Bus.load_valid h .word cpu.pc
  rcases step_cases cpu with haligns | ⟨haligns, fault, hfault⟩ | ⟨word, hfetch⟩
  · have hbegin : ¬Width.word.aligns cpu.begin.pc = true := by
      change ¬Width.word.aligns cpu.pc = true
      rw [haligns]
      exact Bool.false_ne_true
    rw [step_of_misaligned haligns]
    refine ⟨?_, h⟩
    simp only [checkedStep, if_neg hbegin, checkedLandPending_eq, checkedRaise_eq,
      Option.bind_eq_bind, Option.bind_some]
    rfl
  · have hbegin : Width.word.aligns cpu.begin.pc = true := haligns
    have houtcome : cpu.bus.load .word cpu.pc = ((cpu.bus.load .word cpu.pc).1, .error fault) := by
      rw [← hfault]
    rw [step_of_refused haligns hfault]
    refine ⟨?_, hvalid⟩
    rw [checkedStep, if_pos hbegin, hload, houtcome]
    rfl
  · have hbegin : Width.word.aligns cpu.begin.pc = true := hfetch.aligns
    have houtcome : cpu.bus.load .word cpu.pc =
        ((cpu.bus.load .word cpu.pc).1, .ok word.value) := by
      rw [← hfetch.loaded]
    have hlanded : cpu.fetched.landPending.bus.gpu.phase.Valid := hvalid
    obtain ⟨hexecute, hexecuted⟩ := checkedExecute_eq hlanded word
    rw [hfetch.step_eq]
    refine ⟨?_, hexecuted⟩
    rw [checkedStep, if_pos hbegin, hload, houtcome]
    simp only [Option.bind_eq_bind, Option.bind_some, InstructionWord.checkedDecode_eq,
      checkedLandPending_eq]
    change (cpu.fetched.landPending.checkedExecute word.decode).bind _ = _
    rw [hexecute]
    rfl

/-- Only valid phases are reached from power on. -/
theorem Reachable.phase_valid {bios : Bios} (h : Reachable bios cpu) :
    cpu.bus.gpu.phase.Valid := by
  induction h with
  | powerOn => exact trivial
  | step before ih => exact (checkedStep_eq ih).2

/-- In every state reached from power on, by any number of steps and past any
host faults, every operation of the next step has a result, and together they
are the step. -/
theorem checkedStep_of_reachable {bios : Bios} (h : Reachable bios cpu) :
    cpu.checkedStep = some cpu.step := (checkedStep_eq h.phase_valid).1

/-- The first two steps with an empty boot ROM have results. -/
theorem checkedStep_powerOn :
    Reachable (.ofWord 0) (powerOn (.ofWord 0)).step.1 ∧
    (powerOn (.ofWord 0)).step.1.checkedStep = some (powerOn (.ofWord 0)).step.1.step := by
  have hreachable : Reachable (.ofWord 0) (powerOn (.ofWord 0)).step.1 := .step .powerOn
  exact ⟨hreachable, checkedStep_of_reachable hreachable⟩

end Cpu

end Playstation
