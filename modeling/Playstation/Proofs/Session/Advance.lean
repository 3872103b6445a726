import Playstation.Proofs.Cpu.Run
import Playstation.Session

/-!
# Running without a limit

Running some number of instructions at a time, until a host fault, is running just as many
instructions as the fault needs. What the session writes is the same too, with any log: an
advance writes what each step reports, and its result is that of the processor alone.
-/

namespace Playstation

namespace Session

variable {m : Type → Type} [Monad m]
variable {logger : Logger m} {cpu : Cpu} {fault : HostFault} {first steps : Nat}

section Advance

/-- A step without a fault is followed by the others. -/
theorem advance_succ_of_none (h : cpu.step.2 = none) :
    advance logger (steps + 1) cpu =
      (report logger cpu >>= fun _ => advance logger steps cpu.step.1) := by
  obtain ⟨next, hstep⟩ : ∃ next, cpu.step = (next, none) := ⟨_, Prod.ext rfl h⟩
  simp only [advance, hstep]

/-- A step with a fault is the last one. -/
theorem advance_succ_of_some (h : cpu.step.2 = some fault) :
    advance logger (steps + 1) cpu = (report logger cpu >>= fun _ => pure cpu.step) := by
  obtain ⟨next, hstep⟩ : ∃ next, cpu.step = (next, some fault) := ⟨_, Prod.ext rfl h⟩
  simp only [advance, hstep]

/-- An advance which meets a fault does not use the steps that are left. -/
theorem advance_add_of_isSome (h : (cpu.run first).2.isSome) (second : Nat) :
    advance logger (first + second) cpu = advance logger first cpu := by
  induction first generalizing cpu with
  | zero => cases h
  | succ first ih =>
    rw [Nat.add_right_comm]
    cases hstep : cpu.step.2 with
    | none =>
      rw [Cpu.run_succ_of_none hstep] at h
      rw [advance_succ_of_none hstep, advance_succ_of_none hstep, ih h]
    | some fault => rw [advance_succ_of_some hstep, advance_succ_of_some hstep]

/-- Advances which meet a fault are the same. -/
theorem advance_eq_of_isSome {second : Nat} (h : (cpu.run first).2.isSome)
    (hother : (cpu.run second).2.isSome) :
    advance logger first cpu = advance logger second cpu := by
  obtain ⟨more, rfl⟩ | ⟨more, rfl⟩ :=
    (Nat.le_total first second).imp Nat.exists_eq_add_of_le Nat.exists_eq_add_of_le
  · exact (advance_add_of_isSome h more).symm
  · exact advance_add_of_isSome hother more

variable [LawfulMonad m]

/-- An advance results in what a run results in. -/
theorem advance_bind {α : Type} (logger : Logger m) (steps : Nat) (cpu : Cpu)
    (next : Cpu × Option HostFault → m α) :
    (advance logger steps cpu >>= next) =
      (advance logger steps cpu >>= fun _ => next (cpu.run steps)) := by
  induction steps generalizing cpu with
  | zero => simp only [advance, pure_bind, Cpu.run]
  | succ steps ih =>
    cases hstep : cpu.step.2 with
    | none =>
      simp only [advance_succ_of_none hstep, Cpu.run_succ_of_none hstep, bind_assoc]
      exact bind_congr fun _ => ih cpu.step.1
    | some fault =>
      simp only [advance_succ_of_some hstep, Cpu.run_succ_of_some hstep, bind_assoc, pure_bind]

/-- The result of an advance is that of a run. -/
theorem advance_eq (logger : Logger m) (steps : Nat) (cpu : Cpu) :
    advance logger steps cpu =
      (advance logger steps cpu >>= fun _ => pure (cpu.run steps)) := by
  rw [← advance_bind logger steps cpu pure, bind_pure]

/-- An advance which meets no fault is followed by the steps that are left. -/
theorem advance_add_of_none (h : (cpu.run first).2 = none) (second : Nat) :
    advance logger (first + second) cpu =
      (advance logger first cpu >>= fun _ =>
        advance logger second (cpu.run first).1) := by
  induction first generalizing cpu with
  | zero => simp only [Nat.zero_add, advance, pure_bind, Cpu.run]
  | succ first ih =>
    obtain ⟨hstep, -⟩ := Cpu.succeeds_succ_iff.mp (Cpu.run_eq_none_iff.mp h)
    rw [Cpu.run_succ_of_none hstep] at h ⊢
    rw [Nat.add_right_comm, advance_succ_of_none hstep, advance_succ_of_none hstep, bind_assoc]
    exact bind_congr fun _ => ih h

end Advance

section Chunks

variable [LawfulMonad m] [MonadRepeat m] {chunk : Nat}

/-- A chunk which meets no fault is followed by another one. -/
theorem runUntilFault_of_none (h : (cpu.run chunk).2 = none) :
    runUntilFault chunk logger cpu =
      (advance logger chunk cpu >>= fun _ =>
        runUntilFault chunk logger (cpu.run chunk).1) := by
  obtain ⟨next, hrun⟩ : ∃ next, cpu.run chunk = (next, none) := ⟨_, Prod.ext rfl h⟩
  rw [runUntilFault, MonadRepeat.repeatUntil_eq, turn, advance_bind, bind_assoc, hrun]
  simp only [pure_bind, Sum.elim_inl]

/-- A chunk which meets a fault is the last one. -/
theorem runUntilFault_of_some (h : (cpu.run chunk).2 = some fault) :
    runUntilFault chunk logger cpu = advance logger chunk cpu := by
  obtain ⟨next, hrun⟩ : ∃ next, cpu.run chunk = (next, some fault) := ⟨_, Prod.ext rfl h⟩
  rw [runUntilFault, MonadRepeat.repeatUntil_eq, turn, advance_bind, bind_assoc, advance_eq, hrun,
    bind_assoc]
  simp only [pure_bind, Sum.elim_inr]

/-- Whatever the size of the chunks, a run until a fault makes as many steps as the fault
needs. -/
theorem runUntilFault_eq_advance (hchunk : 0 < chunk) (h : (cpu.run steps).2.isSome) :
    runUntilFault chunk logger cpu = advance logger steps cpu := by
  induction steps using Nat.strongRecOn generalizing cpu with
  | ind steps ih =>
    cases hrun : (cpu.run chunk).2 with
    | some fault =>
      rw [runUntilFault_of_some hrun]
      exact advance_eq_of_isSome (Option.isSome_of_eq_some hrun) h
    | none =>
      obtain ⟨rest, rfl⟩ : ∃ rest, steps = chunk + rest := by
        refine Nat.exists_eq_add_of_le (Nat.le_of_not_lt fun hlt => ?_)
        obtain ⟨more, rfl⟩ := Nat.exists_eq_add_of_lt hlt
        rw [Nat.add_assoc, Cpu.run_add_of_isSome h] at hrun
        rw [hrun] at h
        cases h
      rw [Cpu.run_add_of_none hrun] at h
      rw [runUntilFault_of_none hrun, advance_add_of_none hrun]
      exact bind_congr fun _ => ih rest (by omega) h

end Chunks

end Session

end Playstation
