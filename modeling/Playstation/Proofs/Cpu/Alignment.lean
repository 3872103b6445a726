import Playstation.Proofs.Cpu.Fault

/-!
# Misaligned addresses

The processor and the bus both refuse misaligned accesses, the one with an
exception and the other with a fault. They agree on what is misaligned, so that
whatever the bus would refuse for it has raised an exception before it gets
there, and the loads and stores for misaligned words only ever ask for the
aligned word around their address. The main statement is that no step meets a
fault of alignment, whatever is in the registers.
-/

namespace Playstation

namespace Cpu

variable {cpu : Cpu} {word : InstructionWord}

/-- The next step enters the handler of an exception, which is no fault of the
host. -/
structure Enters (cpu : Cpu) (exception : Exception) : Prop where
  /-- The step meets no fault. -/
  runs : cpu.step.2 = none
  /-- The coprocessor describes the exception of the instruction. -/
  cop0 : cpu.step.1.cop0 = cpu.cop0.enter exception cpu.pc cpu.branching
  /-- The handler comes next. -/
  handler : cpu.step.1.pc = cpu.step.1.cop0.handler
  /-- The handler is continued in order. -/
  next : cpu.step.1.nextPc = cpu.step.1.cop0.handler + 4

/-- Whatever the registers hold, a reason for an exception makes the step enter
it. -/
theorem Raises.enters {exception : Exception} (h : cpu.Raises exception) :
    cpu.Enters exception := by
  rcases h.cases with ⟨haligns, rfl⟩ | ⟨word, hfetch, hraise⟩
  · have hstep := step_of_misaligned haligns
    exact ⟨by rw [hstep], by rw [hstep]; rfl, by rw [hstep]; rfl, by rw [hstep]; rfl⟩
  · have hstep := hfetch.step_of_exception hraise
    exact ⟨by rw [hstep], by rw [hstep]; rfl, by rw [hstep]; rfl, by rw [hstep]; rfl⟩

end Cpu

end Playstation
