import Playstation.Cpu.Arithmetic
import Playstation.Cpu.State

/-!
# Execution

A step fetches one instruction, lets the load of the previous one arrive,
executes, and makes the written registers visible. Whether an instruction
raises an exception is decided before it has any effect. A host fault ends a
step early but leaves a state from which stepping can go on.
-/

namespace Playstation

namespace Cpu

/-- Address of a load or store. -/
def memoryAddress (cpu : Cpu) (base : Register) (offset : UInt32) : UInt32 :=
  cpu.register base + offset

/-- The exception which an instruction raises, if any. -/
def exception? (cpu : Cpu) (instruction : Instruction) : Option Exception :=
  match instruction with
  | .alu op _ rs rt =>
    if op.traps (cpu.register rs) (cpu.register rt) then some .arithmeticOverflow else none
  | .immediate op _ rs value =>
    if op.traps (cpu.register rs) value then some .arithmeticOverflow else none
  | .load op _ base offset =>
    let address := op.place (cpu.memoryAddress base offset)
    if op.width.aligns address then none else some (.addressLoadError address)
  | .store op _ base offset =>
    let address := op.place (cpu.memoryAddress base offset)
    if op.width.aligns address then none else some (.addressStoreError address)
  | .mfc0 _ register =>
    match cpu.cop0.read? register with
    | some _ => none
    | none => some .illegalInstruction
  | .mtc0 rt register =>
    if Cop0.refuses register (cpu.register rt) then some .illegalInstruction else none
  | .syscall => some .syscall
  | .breakpoint => some .breakpoint
  | .missingCop _ => some .copUnusable
  | .illegal => some .illegalInstruction
  | _ => none

/-- Load from the bus, leaving the value on its way to a register. -/
def performLoad (cpu : Cpu) (op : LoadOp) (rt base : Register) (offset : UInt32) :
    Cpu × Option HostFault :=
  let address := cpu.memoryAddress base offset
  match cpu.onBus (·.load op.width (op.place address)) with
  | (cpu, .ok value) => (cpu.load rt (op.combine address (cpu.output.get rt) value), none)
  | (cpu, .error fault) => (cpu, some (.bus cpu.currentPc fault))

/-- Store a value to the bus, unless the cache is isolated, which drops every
store. -/
def storeValue (cpu : Cpu) (w : Width) (address value : UInt32) : Cpu × Option HostFault :=
  if cpu.cop0.cacheIsolated then (cpu, none)
  else
    match cpu.onBus (·.store w address value) with
    | (cpu, fault) => (cpu, fault.map (.bus cpu.currentPc))

/-- Store a register to the bus. The stores of a misaligned word read the word
around it first, without the devices noticing. -/
def performStore (cpu : Cpu) (op : StoreOp) (rt base : Register) (offset : UInt32) :
    Cpu × Option HostFault :=
  let address := cpu.memoryAddress base offset
  let value := cpu.register rt
  if op.merges then
    match cpu.bus.peek .word (op.place address) with
    | .ok old => cpu.storeValue op.width (op.place address) (op.combine address old value)
    | .error fault => (cpu, some (.bus cpu.currentPc fault))
  else cpu.storeValue op.width (op.place address) (op.combine address 0 value)

/-- Address of a jump to a word within the 256 MB around the delay slot. -/
def jumpAddress (cpu : Cpu) (target : UInt32) : UInt32 :=
  (cpu.pc &&& 0xf0000000) ||| (target <<< (2 : UInt32))

/-- The effect of an instruction which raises no exception and does not use
the bus. -/
def compute (cpu : Cpu) (instruction : Instruction) : Cpu :=
  match instruction with
  | .rfe => cpu.setCop0 cpu.cop0.leave
  | .shift op rd rt amount => cpu.setRegister rd (op.apply (cpu.register rt) amount)
  | .shiftBy op rd rt rs =>
    cpu.setRegister rd (op.apply (cpu.register rt) (bits (cpu.register rs) 0 4))
  | .alu op rd rs rt => cpu.setRegister rd (op.apply (cpu.register rs) (cpu.register rt))
  | .immediate op rt rs value => cpu.setRegister rt (op.apply (cpu.register rs) value)
  | .lui rt value => cpu.setRegister rt (value <<< 16)
  | .mulDiv op rs rt =>
    let result := op.apply (cpu.register rs) (cpu.register rt)
    { cpu with hi := result.hi, lo := result.lo }
  | .mfhi rd => cpu.setRegister rd cpu.hi
  | .mthi rs => { cpu with hi := cpu.register rs }
  | .mflo rd => cpu.setRegister rd cpu.lo
  | .mtlo rs => { cpu with lo := cpu.register rs }
  | .j target => cpu.jump (cpu.jumpAddress target)
  | .jal target =>
    (cpu.jump (cpu.jumpAddress target)).setRegister .ra cpu.nextPc
  | .jr rs => cpu.jump (cpu.register rs)
  | .jalr rd rs => (cpu.jump (cpu.register rs)).setRegister rd cpu.nextPc
  | .compare op rs rt offset =>
    if op.holds (cpu.register rs) (cpu.register rt) then cpu.branch offset else cpu
  | .sign op rs offset =>
    let taken := op.holds (cpu.register rs)
    let cpu := if op.links then cpu.setRegister .ra cpu.nextPc else cpu
    if taken then cpu.branch offset else cpu
  | .mfc0 rt register => cpu.load rt ((cpu.cop0.read? register).getD 0)
  | .mtc0 rt register => cpu.setCop0 (cpu.cop0.write register (cpu.register rt))
  | _ => cpu

/-- The effect of an instruction which raises no exception. -/
def perform (cpu : Cpu) (instruction : Instruction) : Cpu × Option HostFault :=
  match instruction with
  | .load op rt base offset => cpu.performLoad op rt base offset
  | .store op rt base offset => cpu.performStore op rt base offset
  | .gte _ word => (cpu, some (.unimplementedGte cpu.currentPc word))
  | instruction => (cpu.compute instruction, none)

/-- Execute an instruction. -/
def execute (cpu : Cpu) (instruction : Instruction) : Cpu × Option HostFault :=
  match cpu.exception? instruction with
  | some exception => (cpu.raise exception, none)
  | none => cpu.perform instruction

/-- Make the next instruction the current one. -/
def begin (cpu : Cpu) : Cpu :=
  { cpu with currentPc := cpu.pc, inDelaySlot := cpu.branching, branching := false }

/-- Move past the instruction just fetched, and let the load of the previous
one arrive. -/
def advance (cpu : Cpu) : Cpu :=
  { cpu with pc := cpu.nextPc, nextPc := cpu.nextPc + 4 }.landPending

/-- Load the instruction word at the program counter. -/
def fetch (cpu : Cpu) : Cpu × Except BusFault InstructionWord :=
  match cpu.onBus (·.load .word cpu.pc) with
  | (cpu, word) => (cpu, word.map InstructionWord.mk)

/-- Run one instruction. -/
def step (cpu : Cpu) : Cpu × Option HostFault :=
  let cpu := cpu.begin
  if Width.word.aligns cpu.pc then
    match cpu.fetch with
    | (cpu, .ok word) =>
      match cpu.advance.execute word.decode with
      | (cpu, fault) => (cpu.commit, fault)
    | (cpu, .error fault) => (cpu, some (.bus cpu.currentPc fault))
  else ((cpu.landPending.raise (.addressLoadError cpu.pc)).commit, none)

/-- Run a number of instructions, or until a host fault. -/
def run : (steps : Nat) → Cpu → Cpu × Option HostFault
  | 0, cpu => (cpu, none)
  | steps + 1, cpu =>
    match cpu.step with
    | (cpu, none) => run steps cpu
    | (cpu, some fault) => (cpu, some fault)

end Cpu

end Playstation
