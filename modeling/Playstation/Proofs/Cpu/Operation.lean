import Mathlib.Data.List.Induction
import Playstation.Proofs.Bus.Operation
import Playstation.Proofs.Checked.Cpu
import Playstation.Proofs.Cpu.Store

/-!
# Sequences of operations on the processor

Whoever runs the processor lets it step, and between two steps may use the bus
it owns. Either way the bus only ever sees loads, peeks and stores, so that
whatever holds of the bus after every sequence of these holds of it in every
run.
-/

namespace Playstation

namespace Bus

variable (bus : Bus)

/-- One sequence of operations after the other. -/
theorem performAll_append (operations later : List Operation) :
    bus.performAll (operations ++ later) = (bus.performAll operations).performAll later :=
  List.foldl_append

/-- What a load leaves as an operation. -/
theorem perform_load_eq (w : Width) (address : UInt32) :
    (bus.perform (.load w address)).1 = (bus.load w address).1 :=
  (bus.perform_load w address).trans (bus.notice_eq_withGpu w address).symm

/-- A store instruction does one store, or none. -/
theorem operates_storeBy (isolated : Bool) (op : StoreOp) (address value : UInt32) :
    ∃ operations, (bus.storeBy isolated op address value).1 = bus.performAll operations := by
  rw [storeBy]
  cases op.value bus address value with
  | error fault => exact ⟨[], rfl⟩
  | ok value =>
    cases isolated with
    | true => exact ⟨[], rfl⟩
    | false => exact ⟨[.store op.width (op.place address) value], rfl⟩

end Bus

namespace Cpu

/-- What can be done with the processor. -/
inductive Operation where
  /-- Run one instruction. -/
  | step
  /-- Use the bus from outside. -/
  | bus (operation : Bus.Operation)
  deriving DecidableEq

/-- The use of the bus from outside, if it is one. -/
def Operation.outside? : Operation → Option Bus.Operation
  | step => none
  | bus operation => some operation

/-- The processor after an operation, also if that meets a fault. -/
def operate (cpu : Cpu) (operation : Operation) : Cpu :=
  match operation with
  | .step => cpu.step.1
  | .bus operation => { cpu with bus := (cpu.bus.perform operation).1 }

/-- The processor after a sequence of operations. -/
def operateAll (cpu : Cpu) (operations : List Operation) : Cpu := operations.foldl operate cpu

/-- The last operation of a sequence finds what the others leave. -/
theorem operateAll_concat (cpu : Cpu) (operations : List Operation) (operation : Operation) :
    cpu.operateAll (operations ++ [operation]) = (cpu.operateAll operations).operate operation := by
  rw [operateAll, List.foldl_append]
  rfl

/-- What a load instruction does to the processor, and the fault it meets. -/
theorem performLoad_eq (cpu : Cpu) (op : LoadOp) (rt base : Register) (offset : UInt32) :
    cpu.performLoad op rt base offset =
      let address := cpu.memoryAddress base offset
      let after := { cpu with bus := (cpu.bus.load op.width (op.place address)).1 }
      match (cpu.bus.load op.width (op.place address)).2 with
      | .ok value => (after.load rt (op.combine address (cpu.output.get rt) value), none)
      | .error fault => (after, some (.bus cpu.currentPc fault)) := by
  rw [performLoad]
  simp only [onBus_eq]
  cases (cpu.bus.load op.width (op.place (cpu.memoryAddress base offset))).2 <;> rfl

/-- An instruction uses the bus by operations, if at all. -/
theorem operates_execute (cpu : Cpu) (instruction : Instruction) :
    ∃ operations, (cpu.execute instruction).1.bus = cpu.bus.performAll operations := by
  rw [execute]
  cases cpu.exception? instruction with
  | some exception => exact ⟨[], rfl⟩
  | none =>
    cases instruction with
    | load op rt base offset =>
      have hload := cpu.bus.perform_load_eq op.width (op.place (cpu.memoryAddress base offset))
      refine ⟨[.load op.width (op.place (cpu.memoryAddress base offset))], ?_⟩
      simp only [perform, performLoad_eq]
      split <;> exact hload.symm
    | store op rt base offset =>
      simp only [perform, performStore_eq]
      exact cpu.bus.operates_storeBy _ op _ _
    | gte op word => exact ⟨[], rfl⟩
    | _ => exact ⟨[], compute_bus _ _⟩

/-- A step uses the bus by operations, the first of which is its fetch. -/
theorem operates_step (cpu : Cpu) :
    ∃ operations, cpu.step.1.bus = cpu.bus.performAll operations := by
  have hload := cpu.bus.perform_load_eq .word cpu.pc
  rcases cpu.step_cases with haligns | ⟨haligns, fault, hfault⟩ | ⟨word, hfetch⟩
  · exact ⟨[], congrArg (fun result => result.1.bus) (step_of_misaligned haligns)⟩
  · refine ⟨[.load .word cpu.pc], ?_⟩
    rw [step_of_refused haligns hfault]
    exact hload.symm
  · obtain ⟨operations, hexecute⟩ := cpu.fetched.landPending.operates_execute word.decode
    refine ⟨[.load .word cpu.pc] ++ operations, ?_⟩
    rw [hfetch.step_eq, Bus.performAll_append]
    refine hexecute.trans ?_
    exact congrArg (Bus.performAll · operations) hload.symm

/-- In a run, the bus sees nothing but operations. -/
theorem operates_operateAll (cpu : Cpu) (operations : List Operation) :
    ∃ seen, (cpu.operateAll operations).bus = cpu.bus.performAll seen := by
  induction operations using List.reverseRecOn with
  | nil => exact ⟨[], rfl⟩
  | append_singleton operations operation ih =>
    obtain ⟨seen, hseen⟩ := ih
    rw [operateAll_concat]
    cases operation with
    | step =>
      obtain ⟨later, hlater⟩ := (cpu.operateAll operations).operates_step
      refine ⟨seen ++ later, ?_⟩
      rw [operate, hlater, hseen, Bus.performAll_append]
    | bus operation =>
      refine ⟨seen ++ [operation], ?_⟩
      rw [operate, hseen, Bus.performAll_concat]
      rfl

end Cpu

end Playstation
