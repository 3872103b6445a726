import Playstation.Bits

/-!
# The system coprocessor

The system coprocessor keeps the status of the processor and describes the
last exception. The six low bits of the status register are a stack of three
modes, the current one lowest: an exception pushes the kernel mode with
interrupts off, and returning pops one mode, where the oldest mode stays.
-/

namespace Playstation

/-- Exceptions which the program running on the processor handles itself. -/
inductive Exception where
  /-- Data or an instruction was to be loaded from a misaligned address. -/
  | addressLoadError (address : UInt32)
  /-- Data was to be stored at a misaligned address. -/
  | addressStoreError (address : UInt32)
  /-- System call. -/
  | syscall
  /-- Breakpoint. -/
  | breakpoint
  /-- The instruction does not exist or is reserved. -/
  | illegalInstruction
  /-- The instruction needs a coprocessor which does not exist. -/
  | copUnusable
  /-- The result of signed arithmetic does not fit. -/
  | arithmeticOverflow
  deriving DecidableEq

namespace Exception

/-- Number of the exception in the cause register. -/
def code : Exception → UInt32
  | addressLoadError _ => 0x4
  | addressStoreError _ => 0x5
  | syscall => 0x8
  | breakpoint => 0x9
  | illegalInstruction => 0xa
  | copUnusable => 0xb
  | arithmeticOverflow => 0xc

/-- The misaligned address, for the exceptions which report one. -/
def badAddress? : Exception → Option UInt32
  | addressLoadError address | addressStoreError address => some address
  | _ => none

/-- The name used in messages. -/
def name : Exception → String
  | addressLoadError _ => "AddressLoadError"
  | addressStoreError _ => "AddressStoreError"
  | syscall => "Syscall"
  | breakpoint => "Breakpoint"
  | illegalInstruction => "IllegalInstruction"
  | copUnusable => "CopUnusable"
  | arithmeticOverflow => "ArithmeticOverflow"

end Exception

/-- The system coprocessor. Of its sixteen registers only these four ever
change. -/
structure Cop0 where
  /-- Status register. -/
  sr : UInt32
  /-- Cause of the last exception. -/
  cause : UInt32
  /-- Where to continue after the last exception. -/
  epc : UInt32
  /-- The last misaligned address. -/
  badAddress : UInt32
  deriving DecidableEq

namespace Cop0

/-- Every register clear. -/
def powerOn : Cop0 := ⟨0, 0, 0, 0⟩

/-- The number which tells one processor from another. -/
def processorId : UInt32 := 2

/-- Whether stores go to the data cache instead of memory. -/
def cacheIsolated (cop0 : Cop0) : Bool := bit cop0.sr 16

/-- Whether exceptions are handled in the boot ROM. -/
def bootVectors (cop0 : Cop0) : Bool := bit cop0.sr 22

/-- Whether a register belongs to the hardware breakpoints, which do not exist
and can only be cleared. -/
def isBreakpoint (register : Nat) : Bool :=
  register == 3 || register == 5 || register == 6 || register == 7 || register == 9 ||
    register == 11

/-- The value of a register, if it can be read. -/
def read? (cop0 : Cop0) (register : Nat) : Option UInt32 :=
  match register with
  | 3 | 5 | 6 | 7 | 9 | 11 => some 0
  | 8 => some cop0.badAddress
  | 12 => some cop0.sr
  | 13 => some cop0.cause
  | 14 => some cop0.epc
  | 15 => some processorId
  | _ => none

/-- Whether a write to a register raises an exception instead. -/
def refuses (register : Nat) (value : UInt32) : Bool := isBreakpoint register && value != 0

/-- Write a register. Of the cause register only the two software interrupt
bits can be written, and writes to most registers are ignored. -/
def write (cop0 : Cop0) (register : Nat) (value : UInt32) : Cop0 :=
  match register with
  | 12 => { cop0 with sr := value }
  | 13 => { cop0 with cause := setBits cop0.cause 8 9 (bits value 8 9) }
  | _ => cop0

/-- Whether a write to a register is ignored, and not only without effect. -/
def ignores (register : Nat) : Bool :=
  !(isBreakpoint register || register == 12 || register == 13)

/-- Where exceptions are handled. -/
def handler (cop0 : Cop0) : UInt32 := if cop0.bootVectors then 0xbfc00180 else 0x80000080

/-- Enter an exception raised by the instruction at `pc`. In the delay slot of
a branch the branch is what to continue with. Everything the cause register
held before is dropped. -/
def enter (cop0 : Cop0) (exception : Exception) (pc : UInt32) (inDelaySlot : Bool) : Cop0 where
  sr := setBits cop0.sr 0 5 (bits cop0.sr 0 5 <<< 2)
  cause := setBit (exception.code <<< 2) 31 inDelaySlot
  epc := if inDelaySlot then pc - 4 else pc
  badAddress := exception.badAddress?.getD cop0.badAddress

/-- Return from an exception. -/
def leave (cop0 : Cop0) : Cop0 :=
  { cop0 with sr := setBits cop0.sr 0 3 (bits cop0.sr 0 5 >>> 2) }

end Cop0

end Playstation
