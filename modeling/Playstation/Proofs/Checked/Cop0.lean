import Playstation.Cop0
import Playstation.Proofs.Checked.Word

/-!
# The system coprocessor, checked

The sixteen registers of the system coprocessor as one array, most of whose
places never change, with every index and every bit position checked. Register
numbers above fifteen come out of instruction words, but are never used as an
index.
-/

namespace Playstation

namespace Cop0

variable (cop0 : Cop0)

/-- All registers in the order of their numbers. -/
def registers : Vector UInt32 16 :=
  #v[0, 0, 0, 0, 0, 0, 0, 0, cop0.badAddress, 0, 0, 0, cop0.sr, cop0.cause, cop0.epc, processorId]

/-- Whether stores go to the data cache. -/
def checkedCacheIsolated : Option Bool := checkedBit cop0.sr 16

/-- The value of a register, if it can be read. -/
def checkedRead? (register : Nat) : Option (Option UInt32) :=
  match register with
  | 3 | 5 | 6 | 7 | 8 | 9 | 11 | 12 | 13 | 14 | 15 => do
    let value ← cop0.registers[register]?
    return some value
  | _ => some none

/-- Write a register. The breakpoint registers are cleared, which they are
already. -/
def checkedWrite (register : Nat) (value : UInt32) : Option Cop0 :=
  match register with
  | 3 | 5 | 6 | 7 | 9 | 11 => do
    let _ ← checkedSet cop0.registers register 0
    return cop0
  | 12 => some { cop0 with sr := value }
  | 13 => do
    let requests ← checkedBits value 8 9
    let cause ← checkedSetBits cop0.cause 8 9 requests
    return { cop0 with cause }
  | _ => some cop0

/-- Where exceptions are handled. -/
def checkedHandler : Option UInt32 := do
  if ← checkedBit cop0.sr 22 then return 0xbfc00180 else return 0x80000080

/-- Enter an exception. -/
def checkedEnter (exception : Exception) (pc : UInt32) (inDelaySlot : Bool) : Option Cop0 := do
  let mode ← checkedBits cop0.sr 0 5
  let pushed ← checkedShiftUp mode 2
  let sr ← checkedSetBits cop0.sr 0 5 pushed
  let code ← checkedShiftUp exception.code 2
  let cause ← checkedSetBit code 31 inDelaySlot
  return {
    sr
    cause
    epc := if inDelaySlot then pc - 4 else pc
    badAddress := exception.badAddress?.getD cop0.badAddress }

/-- Return from an exception. -/
def checkedLeave : Option Cop0 := do
  let mode ← checkedBits cop0.sr 0 5
  let popped ← checkedShiftDown mode 2
  let sr ← checkedSetBits cop0.sr 0 3 popped
  return { cop0 with sr }

/-- The cache bit is inside the status register. -/
theorem checkedCacheIsolated_eq : cop0.checkedCacheIsolated = some cop0.cacheIsolated :=
  checkedBit_eq _ (by decide)

/-- Every register number can be asked for. -/
theorem checkedRead?_eq (register : Nat) :
    cop0.checkedRead? register = some (cop0.read? register) := by
  unfold checkedRead? read?
  split <;> first | rfl | simp_all

/-- Every register number can be written to. -/
theorem checkedWrite_eq (register : Nat) (value : UInt32) :
    cop0.checkedWrite register value = some (cop0.write register value) := by
  unfold checkedWrite write
  split <;> first | rfl | simp_all

/-- There is a handler in every state. -/
theorem checkedHandler_eq : cop0.checkedHandler = some cop0.handler := by
  have hbit : checkedBit cop0.sr 22 = some cop0.bootVectors := checkedBit_eq _ (by decide)
  rw [checkedHandler, handler, hbit]
  simp only [Option.bind_eq_bind, Option.bind_some]
  split <;> rfl

/-- Every exception can be entered. -/
theorem checkedEnter_eq (exception : Exception) (pc : UInt32) (inDelaySlot : Bool) :
    cop0.checkedEnter exception pc inDelaySlot = some (cop0.enter exception pc inDelaySlot) := by
  rw [checkedEnter, checkedBits_eq _ (by decide) (by decide)]
  simp only [Option.bind_eq_bind, Option.bind_some]
  rw [checkedShiftUp_eq _ (by decide), Option.bind_some,
    checkedSetBits_eq _ _ (by decide) (by decide), Option.bind_some,
    checkedShiftUp_eq _ (by decide), Option.bind_some, checkedSetBit_eq _ (by decide)]
  rfl

/-- Every exception can be left. -/
theorem checkedLeave_eq : cop0.checkedLeave = some cop0.leave := by
  rw [checkedLeave, checkedBits_eq _ (by decide) (by decide)]
  simp only [Option.bind_eq_bind, Option.bind_some]
  rw [checkedShiftDown_eq _ (by decide), Option.bind_some,
    checkedSetBits_eq _ _ (by decide) (by decide)]
  rfl

end Cop0

end Playstation
