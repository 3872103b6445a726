import Playstation.Proofs.Checked.Arithmetic
import Playstation.Proofs.Checked.Bus
import Playstation.Proofs.Checked.Cop0
import Playstation.Proofs.Checked.Instruction
import Playstation.Proofs.Cpu.Step

/-!
# Execution, checked

Every instruction with its register accesses, shifts, products, quotients and
bus accesses checked. The instruction is one that comes out of a word, so its
shift amount is below the width of a word; the rest holds of every
instruction, as long as the graphics processor is in a valid phase.
-/

namespace Playstation

namespace Cpu

variable (cpu : Cpu)

/-- The value of a register as instructions see it. -/
def checkedRegister (register : Register) : Option UInt32 := cpu.visible[register.val]?

/-- Write a register. The zero register stays zero. -/
def checkedSetRegister (register : Register) (value : UInt32) : Option Cpu := do
  let output ← checkedSet cpu.output register.val value
  let output ← checkedSet output 0 0
  return { cpu with output }

/-- Let the load of the previous instruction arrive. -/
def checkedLandPending : Option Cpu := do
  let cpu ← cpu.checkedSetRegister cpu.pending.register cpu.pending.value
  return { cpu with pending := .none }

/-- Continue a number of instructions away from the delay slot. -/
def checkedBranch (offset : UInt32) : Option Cpu := do
  let distance ← checkedShiftUp offset 2
  return cpu.jump (cpu.pc + distance)

/-- Address of a jump to a word within the 256 MB around the delay slot. -/
def checkedJumpAddress (target : UInt32) : Option UInt32 := do
  let place ← checkedShiftUp target 2
  return (cpu.pc &&& 0xf0000000) ||| place

/-- Address of a load or store. -/
def checkedMemoryAddress (base : Register) (offset : UInt32) : Option UInt32 := do
  let address ← cpu.checkedRegister base
  return address + offset

/-- Enter the handler of an exception. -/
def checkedRaise (exception : Exception) : Option Cpu := do
  let cop0 ← cpu.cop0.checkedEnter exception cpu.currentPc cpu.inDelaySlot
  let handler ← cop0.checkedHandler
  return { cpu with cop0, pc := handler, nextPc := handler + 4 }

/-- The exception which an instruction raises, if any. -/
def checkedException? (instruction : Instruction) : Option (Option Exception) :=
  match instruction with
  | .alu op _ rs rt => do
    let x ← cpu.checkedRegister rs
    let y ← cpu.checkedRegister rt
    return if op.traps x y then some .arithmeticOverflow else none
  | .immediate op _ rs value => do
    let x ← cpu.checkedRegister rs
    return if op.traps x value then some .arithmeticOverflow else none
  | .load op _ base offset => do
    let address ← cpu.checkedMemoryAddress base offset
    return if op.width.aligns (op.place address) then none
      else some (.addressLoadError (op.place address))
  | .store op _ base offset => do
    let address ← cpu.checkedMemoryAddress base offset
    return if op.width.aligns (op.place address) then none
      else some (.addressStoreError (op.place address))
  | .mfc0 _ register => do
    match ← cpu.cop0.checkedRead? register with
    | some _ => return none
    | none => return some .illegalInstruction
  | .mtc0 rt register => do
    let value ← cpu.checkedRegister rt
    return if Cop0.refuses register value then some .illegalInstruction else none
  | .syscall => some (some .syscall)
  | .breakpoint => some (some .breakpoint)
  | .missingCop _ => some (some .copUnusable)
  | .illegal => some (some .illegalInstruction)
  | _ => some none

/-- Load from the bus, leaving the value on its way to a register. -/
def checkedPerformLoad (op : LoadOp) (rt base : Register) (offset : UInt32) :
    Option (Cpu × Option HostFault) := do
  let address ← cpu.checkedMemoryAddress base offset
  let old ← cpu.output[rt.val]?
  match ← cpu.bus.checkedRead op.width (op.place address) true with
  | (bus, .ok value) =>
    let value ← op.checkedCombine address old value
    return (load { cpu with bus } rt value, none)
  | (bus, .error fault) => return ({ cpu with bus }, some (.bus cpu.currentPc fault))

/-- Store a value to the bus, unless the cache is isolated. -/
def checkedStoreValue (w : Width) (address value : UInt32) :
    Option (Cpu × Option HostFault) := do
  if ← cpu.cop0.checkedCacheIsolated then return (cpu, none)
  else
    let (bus, fault) ← cpu.bus.checkedStore w address value
    return ({ cpu with bus }, fault.map (.bus cpu.currentPc))

/-- Store a register to the bus, for a misaligned word merged with the word
around it. -/
def checkedPerformStore (op : StoreOp) (rt base : Register) (offset : UInt32) :
    Option (Cpu × Option HostFault) := do
  let address ← cpu.checkedMemoryAddress base offset
  let value ← cpu.checkedRegister rt
  if op.merges then
    match ← cpu.bus.checkedRead .word (op.place address) false with
    | (_, .ok old) =>
      let merged ← op.checkedCombine address old value
      cpu.checkedStoreValue op.width (op.place address) merged
    | (_, .error fault) => return (cpu, some (.bus cpu.currentPc fault))
  else
    let merged ← op.checkedCombine address 0 value
    cpu.checkedStoreValue op.width (op.place address) merged

/-- The effect of an instruction which raises no exception and does not use
the bus. -/
def checkedCompute (instruction : Instruction) : Option Cpu :=
  match instruction with
  | .rfe => do
    let cop0 ← cpu.cop0.checkedLeave
    return cpu.setCop0 cop0
  | .shift op rd rt amount => do
    let value ← op.checkedApply (← cpu.checkedRegister rt) amount
    cpu.checkedSetRegister rd value
  | .shiftBy op rd rt rs => do
    let value ← cpu.checkedRegister rt
    let amount ← checkedBits (← cpu.checkedRegister rs) 0 4
    cpu.checkedSetRegister rd (← op.checkedApply value amount)
  | .alu op rd rs rt => do
    let x ← cpu.checkedRegister rs
    let y ← cpu.checkedRegister rt
    cpu.checkedSetRegister rd (op.apply x y)
  | .immediate op rt rs value => do
    let x ← cpu.checkedRegister rs
    cpu.checkedSetRegister rt (op.apply x value)
  | .lui rt value => do
    let upper ← checkedShiftUp value 16
    cpu.checkedSetRegister rt upper
  | .mulDiv op rs rt => do
    let x ← cpu.checkedRegister rs
    let y ← cpu.checkedRegister rt
    let result ← op.checkedApply x y
    return { cpu with hi := result.hi, lo := result.lo }
  | .mfhi rd => cpu.checkedSetRegister rd cpu.hi
  | .mthi rs => do
    let hi ← cpu.checkedRegister rs
    return { cpu with hi }
  | .mflo rd => cpu.checkedSetRegister rd cpu.lo
  | .mtlo rs => do
    let lo ← cpu.checkedRegister rs
    return { cpu with lo }
  | .j target => do
    let address ← cpu.checkedJumpAddress target
    return cpu.jump address
  | .jal target => do
    let address ← cpu.checkedJumpAddress target
    (cpu.jump address).checkedSetRegister .ra cpu.nextPc
  | .jr rs => do
    let address ← cpu.checkedRegister rs
    return cpu.jump address
  | .jalr rd rs => do
    let address ← cpu.checkedRegister rs
    (cpu.jump address).checkedSetRegister rd cpu.nextPc
  | .compare op rs rt offset => do
    let x ← cpu.checkedRegister rs
    let y ← cpu.checkedRegister rt
    if op.holds x y then cpu.checkedBranch offset else return cpu
  | .sign op rs offset => do
    let x ← cpu.checkedRegister rs
    let cpu ← if op.links then cpu.checkedSetRegister .ra cpu.nextPc else some cpu
    if op.holds x then cpu.checkedBranch offset else return cpu
  | .mfc0 rt register => do
    let value ← cpu.cop0.checkedRead? register
    return cpu.load rt (value.getD 0)
  | .mtc0 rt register => do
    let cop0 ← cpu.cop0.checkedWrite register (← cpu.checkedRegister rt)
    return cpu.setCop0 cop0
  | _ => some cpu

/-- The effect of an instruction which raises no exception. -/
def checkedPerform (instruction : Instruction) : Option (Cpu × Option HostFault) :=
  match instruction with
  | .load op rt base offset => cpu.checkedPerformLoad op rt base offset
  | .store op rt base offset => cpu.checkedPerformStore op rt base offset
  | .gte _ word => some (cpu, some (.unimplementedGte cpu.currentPc word))
  | instruction => do
    let cpu ← cpu.checkedCompute instruction
    return (cpu, none)

/-- Execute an instruction. -/
def checkedExecute (instruction : Instruction) : Option (Cpu × Option HostFault) := do
  match ← cpu.checkedException? instruction with
  | some exception =>
    let cpu ← cpu.checkedRaise exception
    return (cpu, none)
  | none => cpu.checkedPerform instruction

/-- Every register can be read. -/
theorem checkedRegister_eq (register : Register) :
    cpu.checkedRegister register = some (cpu.register register) :=
  Vector.getElem?_eq_getElem register.isLt

/-- Every register can be written. -/
theorem checkedSetRegister_eq (register : Register) (value : UInt32) :
    cpu.checkedSetRegister register value = some (cpu.setRegister register value) := by
  rw [checkedSetRegister, checkedSet, dif_pos register.isLt, Option.bind_eq_bind, Option.bind_some,
    checkedSet, dif_pos (by decide)]
  rfl

/-- Every pending load can land. -/
theorem checkedLandPending_eq : cpu.checkedLandPending = some cpu.landPending := by
  rw [checkedLandPending, checkedSetRegister_eq]
  rfl

/-- Every branch can be taken. -/
theorem checkedBranch_eq (offset : UInt32) :
    cpu.checkedBranch offset = some (cpu.branch offset) := by
  rw [checkedBranch, checkedShiftUp_eq _ (by decide)]
  rfl

/-- Every jump has an address. -/
theorem checkedJumpAddress_eq (target : UInt32) :
    cpu.checkedJumpAddress target = some (cpu.jumpAddress target) := by
  rw [checkedJumpAddress, checkedShiftUp_eq _ (by decide)]
  rfl

/-- Every access has an address. -/
theorem checkedMemoryAddress_eq (base : Register) (offset : UInt32) :
    cpu.checkedMemoryAddress base offset = some (cpu.memoryAddress base offset) := by
  rw [checkedMemoryAddress, checkedRegister_eq]
  rfl

/-- Every exception can be raised. -/
theorem checkedRaise_eq (exception : Exception) :
    cpu.checkedRaise exception = some (cpu.raise exception) := by
  simp only [checkedRaise, Cop0.checkedEnter_eq, Cop0.checkedHandler_eq, Option.bind_eq_bind,
    Option.bind_some]
  rfl

/-- It can be told of every instruction which exception it raises. -/
theorem checkedException?_eq (instruction : Instruction) :
    cpu.checkedException? instruction = some (cpu.exception? instruction) := by
  cases instruction with
  | alu | immediate | mtc0 =>
    simp only [checkedException?, checkedRegister_eq, Option.bind_eq_bind, Option.bind_some]
    rfl
  | load | store =>
    simp only [checkedException?, checkedMemoryAddress_eq, Option.bind_eq_bind, Option.bind_some]
    rfl
  | mfc0 rt register =>
    simp only [checkedException?, exception?, Cop0.checkedRead?_eq, Option.bind_eq_bind,
      Option.bind_some]
    cases cpu.cop0.read? register <;> rfl
  | _ => rfl

/-- The effect of every decoded instruction that does not use the bus exists. -/
theorem checkedCompute_eq (word : InstructionWord) :
    cpu.checkedCompute word.decode = some (cpu.compute word.decode) := by
  cases hinstruction : word.decode with
  | shift op rd rt amount =>
    have hamount := word.toNat_amount_lt hinstruction
    simp only [checkedCompute, compute, checkedRegister_eq, ShiftOp.checkedApply_eq _ _ hamount,
      checkedSetRegister_eq, Option.bind_eq_bind, Option.bind_some]
  | shiftBy op rd rt rs =>
    have hamount := toNat_fiveBits_lt (cpu.register rs) 0
    rw [checkedCompute]
    simp only [checkedRegister_eq, Option.bind_eq_bind, Option.bind_some]
    rw [checkedBits_eq _ (by decide) (by decide), Option.bind_some,
      ShiftOp.checkedApply_eq _ _ hamount, Option.bind_some, checkedSetRegister_eq]
    rfl
  | lui rt value =>
    rw [checkedCompute, checkedShiftUp_eq _ (by decide), Option.bind_eq_bind, Option.bind_some,
      checkedSetRegister_eq]
    rfl
  | compare op rs rt offset =>
    simp only [checkedCompute, compute, checkedRegister_eq, checkedBranch_eq, Option.bind_eq_bind,
      Option.bind_some]
    split <;> rfl
  | sign op rs offset =>
    simp only [checkedCompute, compute, checkedRegister_eq, checkedBranch_eq,
      checkedSetRegister_eq, Option.bind_eq_bind, Option.bind_some]
    cases op.links <;> cases op.holds (cpu.register rs) <;> rfl
  | _ =>
    simp only [checkedCompute, compute, checkedRegister_eq, checkedSetRegister_eq,
      checkedJumpAddress_eq, MulDivOp.checkedApply_eq, Cop0.checkedRead?_eq, Cop0.checkedWrite_eq,
      Cop0.checkedLeave_eq, Option.bind_eq_bind, Option.bind_some, Option.pure_def]

/-- An instruction that does not use the bus leaves it as it is. -/
theorem compute_bus (instruction : Instruction) : (cpu.compute instruction).bus = cpu.bus := by
  cases instruction with
  | compare op rs rt offset =>
    rw [compute]
    split <;> rfl
  | sign op rs offset =>
    simp only [compute]
    cases op.links <;> cases op.holds (cpu.register rs) <;> rfl
  | _ => rfl

variable {cpu}

/-- Every load has an effect, and leaves the phase valid. -/
theorem checkedPerformLoad_eq (h : cpu.bus.gpu.phase.Valid) (op : LoadOp) (rt base : Register)
    (offset : UInt32) :
    cpu.checkedPerformLoad op rt base offset = some (cpu.performLoad op rt base offset) ∧
      (cpu.performLoad op rt base offset).1.bus.gpu.phase.Valid := by
  have hold : cpu.output[rt.val]? = some (cpu.output.get rt) := Vector.getElem?_eq_getElem rt.isLt
  have hvalid := Bus.load_valid h op.width (op.place (cpu.memoryAddress base offset))
  simp only [checkedPerformLoad, performLoad, onBus_eq, checkedMemoryAddress_eq, hold,
    Bus.checkedLoad_eq h, Option.bind_eq_bind, Option.bind_some]
  generalize cpu.bus.load op.width (op.place (cpu.memoryAddress base offset)) = outcome at hvalid
  rcases outcome with ⟨bus, fault | value⟩
  · exact ⟨rfl, hvalid⟩
  · simp only [LoadOp.checkedCombine_eq, Option.bind_some]
    exact ⟨rfl, hvalid⟩

/-- Every store of a value has an effect, and leaves the phase valid. -/
theorem checkedStoreValue_eq (h : cpu.bus.gpu.phase.Valid) (w : Width) (address value : UInt32) :
    cpu.checkedStoreValue w address value = some (cpu.storeValue w address value) ∧
      (cpu.storeValue w address value).1.bus.gpu.phase.Valid := by
  obtain ⟨hstore, hvalid⟩ := Bus.checkedStore_eq h w address value
  simp only [checkedStoreValue, storeValue, onBus_eq, Cop0.checkedCacheIsolated_eq, hstore,
    Option.bind_eq_bind, Option.bind_some]
  by_cases hisolated : cpu.cop0.cacheIsolated = true
  · rw [if_pos hisolated, if_pos hisolated]
    exact ⟨rfl, h⟩
  · rw [if_neg hisolated, if_neg hisolated]
    exact ⟨rfl, hvalid⟩

/-- Every store of a register has an effect, and leaves the phase valid. -/
theorem checkedPerformStore_eq (h : cpu.bus.gpu.phase.Valid) (op : StoreOp) (rt base : Register)
    (offset : UInt32) :
    cpu.checkedPerformStore op rt base offset = some (cpu.performStore op rt base offset) ∧
      (cpu.performStore op rt base offset).1.bus.gpu.phase.Valid := by
  simp only [checkedPerformStore, performStore, checkedMemoryAddress_eq, checkedRegister_eq,
    Bus.checkedPeek_eq h, StoreOp.checkedCombine_eq, Option.bind_eq_bind, Option.bind_some]
  by_cases hmerges : op.merges = true
  · rw [if_pos hmerges, if_pos hmerges]
    cases cpu.bus.peek .word (op.place (cpu.memoryAddress base offset)) with
    | ok old => exact checkedStoreValue_eq h _ _ _
    | error fault => exact ⟨rfl, h⟩
  · rw [if_neg hmerges, if_neg hmerges]
    exact checkedStoreValue_eq h _ _ _

/-- Every decoded instruction has an effect, and leaves the phase valid. -/
theorem checkedPerform_eq (h : cpu.bus.gpu.phase.Valid) (word : InstructionWord) :
    cpu.checkedPerform word.decode = some (cpu.perform word.decode) ∧
      (cpu.perform word.decode).1.bus.gpu.phase.Valid := by
  have hcompute := cpu.checkedCompute_eq word
  have hvalid : (cpu.compute word.decode).bus.gpu.phase.Valid := by
    rw [compute_bus]
    exact h
  generalize word.decode = instruction at hcompute hvalid
  cases instruction with
  | load op rt base offset => exact checkedPerformLoad_eq h op rt base offset
  | store op rt base offset => exact checkedPerformStore_eq h op rt base offset
  | gte op word => exact ⟨rfl, h⟩
  | _ =>
    simp only [checkedPerform, perform, hcompute, Option.bind_eq_bind, Option.bind_some]
    exact ⟨rfl, hvalid⟩

/-- Every decoded instruction can be executed, and leaves the phase valid. -/
theorem checkedExecute_eq (h : cpu.bus.gpu.phase.Valid) (word : InstructionWord) :
    cpu.checkedExecute word.decode = some (cpu.execute word.decode) ∧
      (cpu.execute word.decode).1.bus.gpu.phase.Valid := by
  simp only [checkedExecute, execute, checkedException?_eq, checkedRaise_eq, Option.bind_eq_bind,
    Option.bind_some]
  cases cpu.exception? word.decode with
  | none => exact checkedPerform_eq h word
  | some exception => exact ⟨rfl, h⟩

end Cpu

end Playstation
