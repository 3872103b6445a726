import Mathlib.Data.List.Induction
import Mathlib.Data.List.Infix
import Playstation.Proofs.Cop0.Operation
import Playstation.Proofs.Field

/-!
# The stack of modes

The six low bits of the status register hold three modes, the current one lowest.
Entering an exception pushes the kernel mode with interrupts off, and returning pops
one mode but leaves the oldest in its place, so that a return does not undo an entry:
what an entry pushes out of the stack is lost. Where exceptions are nested at most
twice, the mode at the start is never lost, and it is what the last return restores.
-/

namespace Playstation

open MachineWord

namespace Cop0

/-- The mode at a place of the stack: whether interrupts are on in bit 0, and whether
programs run as the user in bit 1. The current mode is at place 0. -/
def mode (cop0 : Cop0) (place : Nat) : UInt32 := bits cop0.sr (2 * place) (2 * place + 1)

section Step

variable (cop0 : Cop0) (exception : Exception) (pc : UInt32) (inDelaySlot : Bool) {i place : Nat}

/-- Entering an exception moves the mode bits up by two places. -/
theorem getLsbD_enter_sr (hi : i < 32) :
    (toBits (cop0.enter exception pc inDelaySlot).sr).getLsbD i =
      if i < 6 then decide (2 ≤ i) && (toBits cop0.sr).getLsbD (i - 2)
      else (toBits cop0.sr).getLsbD i := by
  have hshift (x : UInt32) : x <<< (2 : UInt32) = shiftUp x 2 := rfl
  rw [enter, getLsbD_setBits _ _ (by decide) (by decide), hshift, toBits_shiftUp _ _ (by decide),
    BitVec.getLsbD_shiftLeft, getLsbD_bits _ (by decide) (by decide)]
  refine if_ctx_congr (by omega) (fun hlow => ?_) fun _ => rfl
  rw [Nat.sub_zero, Nat.zero_add, decide_eq_true (show i - 2 < 5 - 0 + 1 by omega),
    decide_eq_true (show i < width UInt32 from hi), Bool.and_true, Bool.true_and, ← decide_not]
  simp only [Nat.not_lt]

/-- Returning moves the four upper mode bits down by two places. -/
theorem getLsbD_leave_sr (i : Nat) :
    (toBits cop0.leave.sr).getLsbD i =
      if i < 4 then (toBits cop0.sr).getLsbD (i + 2) else (toBits cop0.sr).getLsbD i := by
  have hshift (x : UInt32) : x >>> (2 : UInt32) = shiftDown x 2 := rfl
  rw [leave, getLsbD_setBits _ _ (by decide) (by decide), hshift, toBits_shiftDown _ _ (by decide),
    BitVec.getLsbD_ushiftRight, getLsbD_bits _ (by decide) (by decide)]
  refine if_ctx_congr (by omega) (fun hlow => ?_) fun _ => rfl
  rw [Nat.sub_zero, Nat.zero_add, Nat.add_comm, decide_eq_true (by omega), Bool.and_true]

/-- A handler runs in the kernel mode with interrupts off. -/
theorem mode_enter_zero : (cop0.enter exception pc inDelaySlot).mode 0 = 0 := by
  refine eq_of_getLsbD_eq fun i _ => ?_
  rw [mode, getLsbD_bits _ (by decide) (by decide), Nat.mul_zero, Nat.zero_add]
  refine Eq.trans ?_ BitVec.getLsbD_zero.symm
  by_cases hi : i < 2
  · rw [getLsbD_enter_sr _ _ _ _ (by omega), if_pos (by omega), decide_eq_false (by omega),
      Bool.false_and, Bool.false_and]
  · rw [decide_eq_false (by omega), Bool.and_false]

/-- The modes which stay in the stack are one place further. -/
theorem mode_enter_succ (h : place < 2) :
    (cop0.enter exception pc inDelaySlot).mode (place + 1) = cop0.mode place := by
  refine eq_of_getLsbD_eq fun i _ => ?_
  have hwidth : width UInt32 = 32 := rfl
  rw [mode, mode, getLsbD_bits _ (by omega) (by omega), getLsbD_bits _ (by omega) (by omega)]
  by_cases hi : i < 2
  · rw [getLsbD_enter_sr _ _ _ _ (by omega), if_pos (by omega), decide_eq_true (by omega),
      Bool.true_and, decide_eq_true (by omega), decide_eq_true (by omega)]
    congr 2
    omega
  · rw [decide_eq_false (by omega), decide_eq_false (by omega), Bool.and_false, Bool.and_false]

/-- Returning brings the modes back by one place, as far as the stack holds them. -/
theorem mode_leave (h : place < 2) : cop0.leave.mode place = cop0.mode (place + 1) := by
  refine eq_of_getLsbD_eq fun i _ => ?_
  have hwidth : width UInt32 = 32 := rfl
  rw [mode, mode, getLsbD_bits _ (by omega) (by omega), getLsbD_bits _ (by omega) (by omega)]
  by_cases hi : i < 2
  · rw [getLsbD_leave_sr, if_pos (by omega), decide_eq_true (by omega), decide_eq_true (by omega)]
    congr 2
    omega
  · rw [decide_eq_false (by omega), decide_eq_false (by omega), Bool.and_false, Bool.and_false]

/-- The bits above the stack take no part in an entry. -/
theorem bits_enter_sr :
    bits (cop0.enter exception pc inDelaySlot).sr 6 31 = bits cop0.sr 6 31 :=
  bits_setBits_of_disjoint (by decide) (by decide) (by decide) (by decide) (.inl (by decide))

/-- Nor in a return. -/
theorem bits_leave_sr : bits cop0.leave.sr 6 31 = bits cop0.sr 6 31 :=
  bits_setBits_of_disjoint (by decide) (by decide) (by decide) (by decide) (.inl (by decide))

/-- Writing another register leaves the status. -/
theorem write_sr {register : Nat} (h : register ≠ 12) (value : UInt32) :
    (cop0.write register value).sr = cop0.sr := by
  unfold write
  split
  · exact absurd rfl h
  · rfl
  · rfl

end Step

/-- How many exceptions are entered. -/
def entries (operations : List Operation) : Nat := operations.countP Operation.isEntry

/-- How many exceptions are returned from. -/
def returns (operations : List Operation) : Nat := operations.countP Operation.isReturn

/-- How many exceptions have been entered and not been returned from. -/
def depth (operations : List Operation) : Nat := entries operations - returns operations

/-- Every return has its entry, at most `limit` exceptions are open at a time, and the
status register is not written otherwise. -/
structure WellNested (limit : Nat) (operations : List Operation) : Prop where
  /-- A return always has an entry before it, and there is room for every entry. -/
  within (done : List Operation) (h : done <+: operations) :
    returns done ≤ entries done ∧ entries done ≤ returns done + limit
  /-- In the end no exception is open. -/
  closes : entries operations = returns operations
  /-- Only other registers are written. -/
  keepsStatus (operation : Operation) (h : operation ∈ operations) :
    operation.writesStatus = false

instance (limit : Nat) (operations : List Operation) : Decidable (WellNested limit operations) :=
  decidable_of_iff
    ((∀ done ∈ operations.inits, returns done ≤ entries done ∧
        entries done ≤ returns done + limit) ∧
      entries operations = returns operations ∧
      ∀ operation ∈ operations, operation.writesStatus = false)
    ⟨fun h => ⟨fun done hdone => h.1 done ((List.mem_inits done operations).mpr hdone),
        h.2.1, h.2.2⟩,
      fun h => ⟨fun done hdone => h.within done ((List.mem_inits done operations).mp hdone),
        h.closes, h.keepsStatus⟩⟩

/-- What the status register keeps from the start while `depth` exceptions are open. All of
these are handled in the kernel mode with interrupts off, and below them are the modes of
the start, as many as no nesting up to `limit` pushes out. -/
structure KeepsModes (limit depth : Nat) (start now : Cop0) : Prop where
  /-- The modes of the open exceptions. -/
  handlers (place : Nat) (h : place < depth) : now.mode place = 0
  /-- The modes of the start. -/
  below (place : Nat) (h : limit + place ≤ 2) : now.mode (depth + place) = start.mode place
  /-- The bits above the stack. -/
  rest : bits now.sr 6 31 = bits start.sr 6 31

namespace KeepsModes

variable {limit depth : Nat} {start now : Cop0}

/-- Entering an exception pushes its mode on top of the others. -/
theorem enter (h : KeepsModes limit depth start now) (hdepth : depth < limit) (hlimit : limit ≤ 2)
    (exception : Exception) (pc : UInt32) (inDelaySlot : Bool) :
    KeepsModes limit (depth + 1) start (now.enter exception pc inDelaySlot) where
  handlers place hplace := by
    cases place with
    | zero => exact mode_enter_zero _ _ _ _
    | succ place =>
      rw [mode_enter_succ _ _ _ _ (by omega)]
      exact h.handlers place (by omega)
  below place hplace := by
    rw [Nat.add_right_comm, mode_enter_succ _ _ _ _ (by omega)]
    exact h.below place hplace
  rest := (bits_enter_sr _ _ _ _).trans h.rest

/-- Returning from an exception pops its mode. -/
theorem leave (h : KeepsModes limit (depth + 1) start now) (hdepth : depth < limit)
    (hlimit : limit ≤ 2) : KeepsModes limit depth start now.leave where
  handlers place hplace := by
    rw [mode_leave _ (by omega)]
    exact h.handlers (place + 1) (by omega)
  below place hplace := by
    rw [mode_leave _ (by omega), Nat.add_right_comm]
    exact h.below place hplace
  rest := (bits_leave_sr _).trans h.rest

/-- Whatever leaves the status register leaves the modes. -/
theorem of_sr_eq {after : Cop0} (h : KeepsModes limit depth start now) (hsr : after.sr = now.sr) :
    KeepsModes limit depth start after := by
  have hmode (place : Nat) : after.mode place = now.mode place := by rw [mode, hsr, mode]
  exact ⟨fun place hplace => (hmode _).trans (h.handlers place hplace),
    fun place hplace => (hmode _).trans (h.below place hplace), by rw [hsr, h.rest]⟩

end KeepsModes

section Run

variable {limit : Nat} {operations done : List Operation}

/-- An entry in a well-nested sequence opens one more exception than there was. -/
theorem WellNested.depth_enter (h : WellNested limit operations) {exception : Exception}
    {pc : UInt32} {inDelaySlot : Bool}
    (hdone : done ++ [.enter exception pc inDelaySlot] <+: operations) :
    depth (done ++ [.enter exception pc inDelaySlot]) = depth done + 1 ∧ depth done < limit := by
  have hbefore := (h.within _ ((List.prefix_append _ _).trans hdone)).1
  have hroom := (h.within _ hdone).2
  simp only [depth, entries, returns, List.countP_append, List.countP_singleton,
    Operation.isEntry, Operation.isReturn, if_true, Bool.false_eq_true, if_false] at hbefore hroom ⊢
  omega

/-- A return in a well-nested sequence closes one of the open exceptions. -/
theorem WellNested.depth_leave (h : WellNested limit operations)
    (hdone : done ++ [.leave] <+: operations) :
    depth done = depth (done ++ [.leave]) + 1 ∧ depth (done ++ [.leave]) < limit := by
  have hroom := (h.within _ ((List.prefix_append _ _).trans hdone)).2
  have hentered := (h.within _ hdone).1
  simp only [depth, entries, returns, List.countP_append, List.countP_singleton,
    Operation.isEntry, Operation.isReturn, if_true, Bool.false_eq_true, if_false]
    at hroom hentered ⊢
  omega

/-- Writing a register opens and closes no exception. -/
theorem depth_write (done : List Operation) (register : Nat) (value : UInt32) :
    depth (done ++ [.write register value]) = depth done := by
  simp only [depth, entries, returns, List.countP_append, List.countP_singleton,
    Operation.isEntry, Operation.isReturn, Bool.false_eq_true, if_false, Nat.add_zero]

/-- At every point of a well-nested sequence the stack keeps the modes of the start. -/
theorem WellNested.keepsModes (h : WellNested limit operations) (hlimit : limit ≤ 2)
    (cop0 : Cop0) (hdone : done <+: operations) :
    KeepsModes limit (depth done) cop0 (cop0.performAll done) := by
  induction done using List.reverseRecOn with
  | nil => exact ⟨fun _ hplace => absurd hplace (Nat.not_lt_zero _),
      fun place _ => congrArg cop0.mode (Nat.zero_add place), rfl⟩
  | append_singleton done operation ih =>
    have hkeeps := ih ((List.prefix_append _ _).trans hdone)
    rw [performAll_concat]
    cases operation with
    | enter exception pc inDelaySlot =>
      obtain ⟨hdepth, hroom⟩ := h.depth_enter hdone
      rw [hdepth]
      exact hkeeps.enter hroom hlimit exception pc inDelaySlot
    | leave =>
      obtain ⟨hdepth, hroom⟩ := h.depth_leave hdone
      rw [hdepth] at hkeeps
      exact hkeeps.leave hroom hlimit
    | write register value =>
      have hmem : .write register value ∈ operations :=
        hdone.subset (List.mem_append_right _ (List.mem_singleton_self _))
      have hregister : register ≠ 12 := ne_of_beq_false (h.keepsStatus _ hmem)
      rw [depth_write]
      exact hkeeps.of_sr_eq (write_sr _ hregister value)

/-- A well-nested sequence brings back the modes of the start, as many as its nesting does
not push out of the stack. -/
theorem WellNested.restores (h : WellNested limit operations) (hlimit : limit ≤ 2) (cop0 : Cop0)
    {place : Nat} (hplace : limit + place ≤ 2) :
    (cop0.performAll operations).mode place = cop0.mode place := by
  have hclosed : depth operations = 0 := by rw [depth, h.closes, Nat.sub_self]
  have hbelow := (h.keepsModes hlimit cop0 List.prefix_rfl).below place hplace
  rwa [hclosed, Nat.zero_add] at hbelow

end Run

/-- After every sequence of exceptions and returns which are nested at most twice, whatever
the exceptions are, the current mode and all bits above the stack of modes are what they
were. So is the previous mode if no exception is entered inside of another. Wherever an
exception is open in between, interrupts are off and the kernel mode is on. -/
theorem modes_of_wellNested (cop0 : Cop0) {operations : List Operation}
    (h : WellNested 2 operations) :
    bits (cop0.performAll operations).sr 0 1 = bits cop0.sr 0 1 ∧
    bits (cop0.performAll operations).sr 6 31 = bits cop0.sr 6 31 ∧
    (WellNested 1 operations →
      bits (cop0.performAll operations).sr 2 3 = bits cop0.sr 2 3) ∧
    ∀ done, done <+: operations → 0 < depth done → bits (cop0.performAll done).sr 0 1 = 0 := by
  have hcurrent : (cop0.performAll operations).mode 0 = cop0.mode 0 :=
    h.restores (Nat.le_refl 2) cop0 (Nat.le_refl 2)
  refine ⟨hcurrent, (h.keepsModes (Nat.le_refl 2) cop0 List.prefix_rfl).rest, ?_, ?_⟩
  · intro honce
    have hprevious : (cop0.performAll operations).mode 1 = cop0.mode 1 :=
      honce.restores (Nat.le_succ 1) cop0 (Nat.le_refl 2)
    exact hprevious
  · intro done hdone hopen
    have hhandler : (cop0.performAll done).mode 0 = 0 :=
      (h.keepsModes (Nat.le_refl 2) cop0 hdone).handlers 0 hopen
    exact hhandler

/-- A system call whose handler meets a misaligned address and then a breakpoint, with
requests for interrupts in between. The user mode with interrupts on comes back, while the
previous mode, with interrupts off, is lost. -/
theorem modes_of_wellNested_handler :
    let cop0 : Cop0 := ⟨0x1040000b, 0, 0, 0⟩
    let operations : List Operation := [.enter .syscall 0x80001000 false,
      .enter (.addressLoadError 0x80002001) 0x80000090 true, .write 13 0x300, .leave,
      .enter .breakpoint 0x80000098 false, .leave, .leave]
    WellNested 2 operations ∧
      bits (cop0.performAll operations).sr 0 1 = 3 ∧
      bits (cop0.performAll operations).sr 6 31 = bits 0x10400000 6 31 ∧
      bits (cop0.performAll (operations.take 5)).sr 0 1 = 0 ∧
      bits cop0.sr 2 3 = 2 ∧ bits (cop0.performAll operations).sr 2 3 = 3 := by
  intro cop0 operations
  have hnested : WellNested 2 operations := by decide
  obtain ⟨hcurrent, hrest, -, hhandlers⟩ := modes_of_wellNested cop0 hnested
  exact ⟨hnested, hcurrent.trans (by decide), hrest.trans (by decide),
    hhandlers _ (List.take_prefix _ _) (by decide), by decide, by decide⟩

/-- A third exception pushes the mode at the start out of the stack. -/
example :
    let cop0 : Cop0 := ⟨3, 0, 0, 0⟩
    let operations : List Operation :=
      List.replicate 3 (.enter .syscall 0x80000090 false) ++ List.replicate 3 .leave
    WellNested 3 operations ∧ bits (cop0.performAll operations).sr 0 1 = 0 := by
  decide

end Cop0

end Playstation
