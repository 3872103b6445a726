import Playstation.Proofs.Cpu.Program
import Mathlib.Data.Nat.Find

/-!
# Runs

A run makes steps until their number is reached or one of them ends in a host fault. Runs
can be put together: a run which meets no fault can be followed by another one from where it
has ended, and a run which meets one is the same however many steps it had left.
-/

namespace Playstation

namespace Cpu

variable {cpu : Cpu} {fault : HostFault} {first steps : Nat}

/-- The processor some number of steps later, whether or not some of them ended in a host
fault. -/
def later (cpu : Cpu) (steps : Nat) : Cpu := (fun cpu => cpu.step.1)^[steps] cpu

/-- A number of steps can be made without a host fault. -/
def Succeeds (cpu : Cpu) (steps : Nat) : Prop := ∀ k < steps, (cpu.later k).step.2 = none

/-- After a number of steps which succeed, the next one ends in a host fault. -/
structure FailsFirst (cpu : Cpu) (steps : Nat) (fault : HostFault) : Prop where
  /-- Nothing fails before. -/
  succeeds : cpu.Succeeds steps
  /-- The step fails. -/
  fails : (cpu.later steps).step.2 = some fault

/-- A step which fails is the first one, or another one before it is. -/
theorem exists_failsFirst (h : ¬∀ k, (cpu.later k).step.2 = none) :
    ∃ k fault, cpu.FailsFirst k fault := by
  push Not at h
  have hfails := Option.ne_none_iff_exists'.mp (Nat.find_spec h)
  obtain ⟨fault, hfault⟩ := hfails
  refine ⟨Nat.find h, fault, fun k hk => ?_, hfault⟩
  exact not_not.mp (Nat.find_min h hk)

section Step

/-- A step without a fault is followed by the others. -/
theorem run_succ_of_none (h : cpu.step.2 = none) : cpu.run (steps + 1) = cpu.step.1.run steps := by
  rw [run]
  split
  · next hstep => rw [hstep]
  · next hstep =>
    rw [hstep] at h
    cases h

/-- A step with a fault is the last one. -/
theorem run_succ_of_some (h : cpu.step.2 = some fault) : cpu.run (steps + 1) = cpu.step := by
  rw [run]
  split
  · next hstep =>
    rw [hstep] at h
    cases h
  · next hstep => exact hstep.symm

/-- The first step succeeds, and so do those which follow it. -/
theorem succeeds_succ_iff :
    cpu.Succeeds (steps + 1) ↔ cpu.step.2 = none ∧ cpu.step.1.Succeeds steps := by
  rw [Succeeds, Nat.forall_lt_succ_left]
  rfl

end Step

section Run

/-- A run of steps which succeed makes all of them. -/
theorem Succeeds.run (h : cpu.Succeeds steps) : cpu.run steps = (cpu.later steps, none) := by
  induction steps generalizing cpu with
  | zero => rfl
  | succ steps ih =>
    obtain ⟨hstep, hothers⟩ := succeeds_succ_iff.mp h
    rw [run_succ_of_none hstep, ih hothers]
    rfl

/-- A run ends with the first step which fails. -/
theorem FailsFirst.run (h : cpu.FailsFirst first fault) (hlt : first < steps) :
    cpu.run steps = (cpu.later (first + 1), some fault) := by
  induction first generalizing cpu steps with
  | zero =>
    obtain ⟨steps, rfl⟩ := Nat.exists_eq_add_of_le' hlt
    have hfails : cpu.step.2 = some fault := h.fails
    rw [run_succ_of_some hfails]
    exact Prod.ext rfl hfails
  | succ first ih =>
    obtain ⟨steps, rfl⟩ := Nat.exists_eq_add_of_le' (Nat.one_le_of_lt hlt)
    obtain ⟨hstep, hothers⟩ := succeeds_succ_iff.mp h.succeeds
    rw [run_succ_of_none hstep, ih ⟨hothers, h.fails⟩ (Nat.lt_of_succ_lt_succ hlt)]
    rfl

/-- One more step than succeed is enough to meet the fault. -/
theorem FailsFirst.isSome_run (h : cpu.FailsFirst first fault) :
    (cpu.run (first + 1)).2.isSome := by
  rw [h.run (Nat.lt_succ_self first)]
  rfl

/-- A run meets no fault if all of its steps succeed. -/
theorem run_eq_none_iff : (cpu.run steps).2 = none ↔ cpu.Succeeds steps := by
  refine ⟨fun h => ?_, fun h => congrArg Prod.snd h.run⟩
  induction steps generalizing cpu with
  | zero => exact fun k hk => absurd hk (Nat.not_lt_zero k)
  | succ steps ih =>
    cases hstep : cpu.step.2 with
    | none => exact succeeds_succ_iff.mpr ⟨hstep, ih (run_succ_of_none hstep ▸ h)⟩
    | some fault =>
      rw [run_succ_of_some hstep, hstep] at h
      cases h

/-- A run which meets no fault is followed by the steps that are left. -/
theorem run_add_of_none (h : (cpu.run first).2 = none) (second : Nat) :
    cpu.run (first + second) = (cpu.run first).1.run second := by
  induction first generalizing cpu with
  | zero => rw [Nat.zero_add, run]
  | succ first ih =>
    obtain ⟨hstep, -⟩ := succeeds_succ_iff.mp (run_eq_none_iff.mp h)
    rw [run_succ_of_none hstep] at h ⊢
    rw [Nat.add_right_comm, run_succ_of_none hstep, ih h]

/-- A run which meets a fault does not use the steps that are left. -/
theorem run_add_of_isSome (h : (cpu.run first).2.isSome) (second : Nat) :
    cpu.run (first + second) = cpu.run first := by
  induction first generalizing cpu with
  | zero => cases h
  | succ first ih =>
    rw [Nat.add_right_comm]
    cases hstep : cpu.step.2 with
    | none =>
      rw [run_succ_of_none hstep] at h ⊢
      rw [run_succ_of_none hstep, ih h]
    | some fault => rw [run_succ_of_some hstep, run_succ_of_some hstep]

end Run

end Cpu

end Playstation
