import Mathlib.Data.List.DropRight
import Playstation.Proofs.Checked.Cop0
import Playstation.Proofs.Cop0
import Playstation.Proofs.Cop0.Operation
import Playstation.Proofs.Field
import Playstation.Proofs.History

/-!
# The register file of the system coprocessor

The coprocessor has sixteen registers, and three things write to them: instructions that
move a value there, the entry of an exception with the report of a misaligned address, and
the return from one. Here each of these is told for the file as a whole. Whatever sequence
of them is done, the registers of the breakpoints and those without a meaning stay zero,
the cause is of one shape, and its two software requests are the last that were written
since an exception was entered.
-/

namespace Playstation

open MachineWord

/-- All registers of the system coprocessor in the order of their numbers. -/
abbrev RegisterFile : Type := Vector UInt32 16

namespace RegisterFile

/-- Only the number of the processor is set at power on. -/
def powerOn : RegisterFile := (Vector.replicate 16 0).setIfInBounds 15 Cop0.processorId

variable (file : RegisterFile)

/-- The value of a register. -/
def value (register : Nat) : UInt32 := (file[register]?).getD 0

/-- The file after a value has been moved to a register. The registers of the breakpoints
can only be cleared, and what goes to a register without a meaning is dropped. -/
def write (register : Nat) (value : UInt32) : RegisterFile :=
  match register with
  | 3 | 5 | 6 | 7 | 9 | 11 => if value = 0 then file.setIfInBounds register 0 else file
  | 12 => file.setIfInBounds 12 value
  | 13 => file.setIfInBounds 13 (setBits (file.value 13) 8 9 (bits value 8 9))
  | _ => file

/-- The file after a misaligned address has been reported, if there is one. -/
def report : Option UInt32 → RegisterFile
  | some address => file.setIfInBounds 8 address
  | none => file

/-- The file after an exception has been entered. -/
def enter (exception : Exception) (pc : UInt32) (inDelaySlot : Bool) : RegisterFile :=
  (file.report exception.badAddress?)
    |>.setIfInBounds 12 (setBits (file.value 12) 0 5 (bits (file.value 12) 0 5 <<< 2))
    |>.setIfInBounds 13 (setBit (exception.code <<< 2) 31 inDelaySlot)
    |>.setIfInBounds 14 (if inDelaySlot then pc - 4 else pc)

/-- The file after an exception has been returned from. -/
def leave : RegisterFile :=
  file.setIfInBounds 12 (setBits (file.value 12) 0 3 (bits (file.value 12) 0 5 >>> 2))

/-- The file after an operation. -/
def perform : Cop0.Operation → RegisterFile
  | .enter exception pc inDelaySlot => file.enter exception pc inDelaySlot
  | .leave => file.leave
  | .write register value => file.write register value

/-- The file after a sequence of operations. -/
def performAll (operations : List Cop0.Operation) : RegisterFile := operations.foldl perform file

end RegisterFile

namespace Cop0

/-- A value moved to a register of the coprocessor goes to the file. -/
theorem registers_write (cop0 : Cop0) (register : Nat) (value : UInt32) :
    (cop0.write register value).registers = RegisterFile.write cop0.registers register value := by
  have hclear : ∀ number ∈ [3, 5, 6, 7, 9, 11],
      cop0.registers =
        if value = 0 then cop0.registers.setIfInBounds number 0 else cop0.registers := by
    intro number hnumber
    split
    · simp only [List.mem_cons, List.not_mem_nil, or_false] at hnumber
      rcases hnumber with rfl | rfl | rfl | rfl | rfl | rfl <;> rfl
    · rfl
  unfold write RegisterFile.write
  split
  · rfl
  · rfl
  · split
    any_goals exact hclear _ (by decide)
    any_goals contradiction
    rfl

/-- An operation on the coprocessor is one on its registers. -/
theorem registers_perform (cop0 : Cop0) (operation : Operation) :
    (cop0.perform operation).registers = RegisterFile.perform cop0.registers operation := by
  cases operation with
  | enter exception pc inDelaySlot => cases exception <;> rfl
  | leave => rfl
  | write register value => exact cop0.registers_write register value

/-- A sequence of operations leaves the registers which it leaves in the file. -/
theorem registers_performAll (operations : List Operation) :
    (powerOn.performAll operations).registers = RegisterFile.powerOn.performAll operations := by
  induction operations using List.reverseRecOn with
  | nil => rfl
  | append_singleton operations operation ih =>
    rw [performAll_concat, registers_perform, ih, RegisterFile.performAll, RegisterFile.performAll,
      List.foldl_append]
    rfl

/-- What can be read is in the file. -/
theorem registers_of_read? {cop0 : Cop0} {register : Nat} {value : UInt32}
    (h : cop0.read? register = some value) : cop0.registers[register]? = some value := by
  unfold read? at h
  split at h <;> first | exact h | cases h

/-- The registers which describe no state of the processor are constant. -/
theorem registers_constant (cop0 : Cop0) :
    (∀ register ∈ List.range 8 ++ [9, 10, 11], cop0.registers[register]? = some 0) ∧
      cop0.registers[15]? = some 2 := by
  refine ⟨fun register hregister => ?_, rfl⟩
  simp only [List.range, List.range.loop, List.cons_append, List.nil_append, List.mem_cons,
    List.not_mem_nil, or_false] at hregister
  rcases hregister with rfl | rfl | rfl | rfl | rfl | rfl | rfl | rfl | rfl | rfl | rfl <;> rfl

/-- The numbers of exceptions, and zero for none. -/
def causeCodes : List UInt32 := [0, 4, 5, 8, 9, 10, 11, 12]

/-- The shape of the cause: the number of an exception, or none, with the requests of
programs and the mark of a delay slot. -/
structure CauseShape (cause : UInt32) : Prop where
  /-- All other bits are clear. -/
  unused : cause &&& ~~~0x8000037c = 0
  /-- The number of an exception, or zero. -/
  code : bits cause 2 6 ∈ causeCodes

section Step

variable {cop0 : Cop0}

/-- The number of an exception, or zero, and the mark of a delay slot are in their places. -/
theorem causeShape_setBit {code : UInt32} (h : code ∈ causeCodes) (slot : Bool) :
    CauseShape (setBit (code <<< (2 : UInt32)) 31 slot) ∧
      bits (setBit (code <<< (2 : UInt32)) 31 slot) 8 9 = 0 := by
  simp only [causeCodes, List.mem_cons, List.not_mem_nil, or_false] at h
  rcases h with rfl | rfl | rfl | rfl | rfl | rfl | rfl | rfl <;>
    cases slot <;> exact ⟨⟨by decide, by decide⟩, by decide⟩

/-- An exception gives the cause its number and no requests. -/
theorem cause_enter (cop0 : Cop0) (exception : Exception) (pc : UInt32) (inDelaySlot : Bool) :
    CauseShape (cop0.enter exception pc inDelaySlot).cause ∧
      bits (cop0.enter exception pc inDelaySlot).cause 8 9 = 0 := by
  have hcode : exception.code ∈ causeCodes := by
    cases exception <;> simp [Exception.code, causeCodes]
  exact causeShape_setBit hcode inDelaySlot

/-- A value moved to the coprocessor changes the requests of the cause, or nothing of it. -/
theorem cause_write (cop0 : Cop0) (register : Nat) (value : UInt32) :
    (cop0.write register value).cause =
      if register = 13 then setBits cop0.cause 8 9 (bits value 8 9) else cop0.cause := by
  unfold write
  split
  · rfl
  · rfl
  · next h => rw [if_neg h]

/-- Every operation leaves a cause of the shape. -/
theorem CauseShape.perform (h : CauseShape cop0.cause) (operation : Operation) :
    CauseShape (cop0.perform operation).cause := by
  cases operation with
  | enter exception pc inDelaySlot => exact (cop0.cause_enter exception pc inDelaySlot).1
  | leave => exact h
  | write register value =>
    rw [Cop0.perform, cause_write]
    split
    · have hrequests : Puts 0x300 fun cause => setBits cause 8 9 (bits value 8 9) :=
        .setBits _ (by decide) (by decide) (by decide)
      refine ⟨?_, ?_⟩
      · exact (hrequests.and_of_disjoint (by decide) _).trans h.unused
      · rw [bits_setBits_of_disjoint (by decide) (by decide) (by decide) (by decide)
          (.inr (by decide))]
        exact h.code
    · exact h

/-- An operation which enters no exception leaves all that describes the last one. -/
theorem perform_of_not_isEntry (cop0 : Cop0) {operation : Operation}
    (h : operation.isEntry = false) :
    (cop0.perform operation).epc = cop0.epc ∧
      (cop0.perform operation).badAddress = cop0.badAddress ∧
      bits (cop0.perform operation).cause 2 6 = bits cop0.cause 2 6 ∧
      bit (cop0.perform operation).cause 31 = bit cop0.cause 31 := by
  cases operation with
  | enter exception pc inDelaySlot => cases h
  | leave => exact ⟨rfl, rfl, rfl, rfl⟩
  | write register value =>
    have hrest : (cop0.write register value).epc = cop0.epc ∧
        (cop0.write register value).badAddress = cop0.badAddress := by
      unfold write
      split <;> exact ⟨rfl, rfl⟩
    rw [Cop0.perform, cause_write]
    refine ⟨hrest.1, hrest.2, ?_, ?_⟩
    · split
      · exact bits_setBits_of_disjoint (by decide) (by decide) (by decide) (by decide)
          (.inr (by decide))
      · rfl
    · split
      · exact bit_setBits_of_disjoint (by decide) (by decide) (by decide) (.inr (by decide))
      · rfl

end Step

/-- The requests which an operation writes, if it writes some. -/
def Operation.requests? : Operation → Option UInt32
  | write register value => if register = 13 then some (bits value 8 9) else none
  | enter _ _ _ | leave => none

/-- The requests which were written last since the last exception, or none. -/
def lastRequests (operations : List Operation) : UInt32 :=
  ((operations.rtakeWhile (!·.isEntry)).filterMap Operation.requests?).getLast?.getD 0

/-- An exception drops the requests. -/
theorem lastRequests_concat_of_isEntry {operation : Operation} (h : operation.isEntry = true)
    (operations : List Operation) : lastRequests (operations ++ [operation]) = 0 := by
  rw [lastRequests, List.rtakeWhile_concat_neg _ _ _ (by rw [h]; decide)]
  rfl

/-- Any other operation writes new ones, or leaves those which there are. -/
theorem lastRequests_concat {operation : Operation} (h : operation.isEntry = false)
    (operations : List Operation) :
    lastRequests (operations ++ [operation]) =
      operation.requests?.getD (lastRequests operations) := by
  rw [lastRequests, List.rtakeWhile_concat_pos _ _ _ (by rw [h]; rfl), getLast?_filterMap_concat,
    Option.getD_or]
  rfl

/-- After a sequence of operations from power on the cause has its shape. -/
theorem causeShape_performAll (operations : List Operation) :
    CauseShape (powerOn.performAll operations).cause := by
  induction operations using List.reverseRecOn with
  | nil => exact ⟨by decide, by decide⟩
  | append_singleton operations operation ih =>
    rw [performAll_concat]
    exact ih.perform operation

/-- After a sequence of operations from power on the requests of the cause are the last
which were written since an exception was entered. -/
theorem requests_performAll (operations : List Operation) :
    bits (powerOn.performAll operations).cause 8 9 = lastRequests operations := by
  induction operations using List.reverseRecOn with
  | nil => rfl
  | append_singleton operations operation ih =>
    rw [performAll_concat]
    cases operation with
    | enter exception pc inDelaySlot =>
      rw [lastRequests_concat_of_isEntry rfl]
      exact (cause_enter _ exception pc inDelaySlot).2
    | leave =>
      rw [lastRequests_concat rfl]
      exact ih
    | write register value =>
      rw [lastRequests_concat rfl, perform, cause_write, Operation.requests?]
      split
      · exact bits_setBits_bits (by decide) (by decide) (by decide) (by decide) rfl
      · exact ih

end Cop0

end Playstation
