import Playstation.Bus.Access
import Playstation.Cop0
import Playstation.Instruction.Decode

/-!
# State of the processor

The processor has two banks of registers: instructions read the visible bank
and write the output bank, and the visible bank takes over the output bank at
the end of each step. A loaded value waits one step before it is written to
the output bank, and the instruction in between sees the old value. The
program counter runs one instruction ahead, so the instruction after a branch
is always executed.
-/

namespace Playstation

/-- Something this machine cannot do, as opposed to an exception which the
running program handles. -/
inductive HostFault where
  /-- The bus refused an access of the instruction at `pc`. -/
  | bus (pc : UInt32) (cause : BusFault)
  /-- The instruction at `pc` needs the geometry coprocessor. -/
  | unimplementedGte (pc : UInt32) (word : UInt32)
  deriving DecidableEq

/-- The text of a fault. -/
def HostFault.message : HostFault → String
  | bus pc cause => s!"bus error at pc {hexMarked 8 pc.toNat}: {cause.message}"
  | unimplementedGte pc word =>
    s!"GTE instruction {hex 8 word.toNat} at pc {hexMarked 8 pc.toNat} isn't supported"

/-- The values of all general purpose registers. -/
abbrev RegisterBank : Type := Vector UInt32 32

/-- The registers after a value has been written to one of them. The zero
register stays zero. -/
@[inline] def RegisterBank.write (bank : RegisterBank) (register : Register) (value : UInt32) :
    RegisterBank :=
  (bank.set register value register.isLt).set 0 0 (by decide)

/-- A loaded value on its way to a register. With the zero register as its
target it stands for nothing. -/
structure PendingLoad where
  /-- The register to be written. -/
  register : Register
  /-- The value to be written. -/
  value : UInt32
  deriving DecidableEq

/-- Nothing on its way. -/
def PendingLoad.none : PendingLoad := ⟨.zero, 0⟩

/-- The processor with the bus it owns. -/
structure Cpu where
  /-- Address of the instruction being executed. -/
  currentPc : UInt32
  /-- Address of the next instruction; while one is executed, that of its
  delay slot. -/
  pc : UInt32
  /-- Address of the instruction after that one. Branches change it. -/
  nextPc : UInt32
  /-- Whether the current instruction is in the delay slot of a branch. -/
  inDelaySlot : Bool
  /-- Whether the current instruction is a branch that is taken. -/
  branching : Bool
  /-- High word of a product, or remainder. -/
  hi : UInt32
  /-- Low word of a product, or quotient. -/
  lo : UInt32
  /-- The registers which instructions read. -/
  visible : RegisterBank
  /-- The registers which instructions write. -/
  output : RegisterBank
  /-- The load of the previous instruction. -/
  pending : PendingLoad
  /-- The system coprocessor. -/
  cop0 : Cop0
  /-- The bus. -/
  bus : Bus

namespace Cpu

/-- The address of the first instruction. -/
def resetAddress : UInt32 := 0xbfc00000

/-- The processor at power on, with a boot ROM plugged in. -/
def powerOn (bios : Bios) : Cpu where
  currentPc := resetAddress
  pc := resetAddress
  nextPc := resetAddress + 4
  inDelaySlot := false
  branching := false
  hi := 0
  lo := 0
  visible := Vector.replicate 32 0
  output := Vector.replicate 32 0
  pending := .none
  cop0 := .powerOn
  bus := .powerOn bios

/-- The value of a register as instructions see it. -/
@[inline] def register (cpu : Cpu) (register : Register) : UInt32 := cpu.visible.get register

/-- Write a register. The zero register stays zero. -/
def setRegister (cpu : Cpu) (register : Register) (value : UInt32) : Cpu :=
  { cpu with output := cpu.output.write register value }

/-- Let the load of the previous instruction arrive. -/
def landPending (cpu : Cpu) : Cpu :=
  { cpu.setRegister cpu.pending.register cpu.pending.value with pending := .none }

/-- Make the written registers visible. -/
def commit (cpu : Cpu) : Cpu := { cpu with visible := cpu.output }

/-- Put a loaded value on its way. -/
def load (cpu : Cpu) (register : Register) (value : UInt32) : Cpu :=
  { cpu with pending := ⟨register, value⟩ }

/-- Continue at an address after the delay slot. -/
def jump (cpu : Cpu) (address : UInt32) : Cpu :=
  { cpu with nextPc := address, branching := true }

/-- Continue a number of instructions away from the delay slot. -/
def branch (cpu : Cpu) (offset : UInt32) : Cpu := cpu.jump (cpu.pc + offset <<< 2)

/-- Enter the handler of an exception. -/
def raise (cpu : Cpu) (exception : Exception) : Cpu :=
  let cop0 := cpu.cop0.enter exception cpu.currentPc cpu.inDelaySlot
  { cpu with cop0, pc := cop0.handler, nextPc := cop0.handler + 4 }

/-- Let the bus do something. Nothing else of the processor takes part. -/
@[inline] def onBus {α : Type} (cpu : Cpu) (action : Bus → Bus × α) : Cpu × α :=
  let ⟨currentPc, pc, nextPc, inDelaySlot, branching, hi, lo, visible, output, pending, cop0,
    bus⟩ := cpu
  match action bus with
  | (bus, result) =>
    (⟨currentPc, pc, nextPc, inDelaySlot, branching, hi, lo, visible, output, pending, cop0, bus⟩,
      result)

/-- Take a register of the system coprocessor from an instruction. -/
def setCop0 (cpu : Cpu) (cop0 : Cop0) : Cpu := { cpu with cop0 }

end Cpu

end Playstation
