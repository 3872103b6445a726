import Playstation.Address
import Playstation.Bios
import Playstation.Dma.Controller
import Playstation.Gpu.Processor
import Playstation.Spu

/-!
# The bus and what is connected to it

The bus owns main memory, the boot ROM, the DMA controller, the graphics and
sound processors and three groups of registers of its own: the memory control
registers, the first two of which hold the bases of the expansion windows and
cannot be moved, the cache control register and the RAM size register.
-/

namespace Playstation

/-- Why the bus refuses an access. -/
inductive BusFault where
  /-- The address is not a multiple of the width. -/
  | unaligned (address : UInt32) (width : Width)
  /-- No region contains the physical address. -/
  | unmapped (address : UInt32)
  /-- An expansion window would move. -/
  | badExpansionBase (expansion : Nat) (address : UInt32)
  /-- The DMA controller refuses a register access or a transfer. -/
  | dma (fault : DmaFault)
  deriving DecidableEq

/-- The text of a fault. -/
def BusFault.message : BusFault → String
  | unaligned address width =>
    s!"unaligned {width.bytes} byte access at {hexMarked 8 address.toNat}"
  | unmapped address => s!"nothing mapped at {hexMarked 8 address.toNat}"
  | badExpansionBase expansion address =>
    s!"expansion {expansion} base address set to {hexMarked 8 address.toNat}"
  | dma fault => fault.message

/-- The memory control registers. -/
structure MemoryControl where
  /-- The registers in order of their offset. -/
  registers : Vector UInt32 9
  deriving DecidableEq

namespace MemoryControl

/-- The expansion windows at their standard places and everything else
clear. -/
def powerOn : MemoryControl :=
  ⟨#v[Region.expansion1.range.start, Region.expansion2.range.start, 0, 0, 0, 0, 0, 0, 0]⟩

/-- The register which holds the byte at an offset. -/
def load (control : MemoryControl) (offset : UInt32) : UInt32 :=
  (control.registers[offset.toNat / 4]?).getD 0

/-- Store a register, refused if that would move an expansion window. -/
def store (control : MemoryControl) (offset value : UInt32) : Except BusFault MemoryControl :=
  let number := offset.toNat / 4
  if number = 0 ∧ value ≠ Region.expansion1.range.start then .error (.badExpansionBase 1 value)
  else if number = 1 ∧ value ≠ Region.expansion2.range.start then
    .error (.badExpansionBase 2 value)
  else .ok ⟨control.registers.setIfInBounds number value⟩

end MemoryControl

/-- The bus with everything connected to it. -/
structure Bus where
  /-- The boot ROM. -/
  bios : Bios
  /-- Main memory. -/
  ram : Ram
  /-- The DMA controller. -/
  dma : Dma
  /-- The graphics processor. -/
  gpu : Gpu
  /-- The sound processor. -/
  spu : Spu
  /-- The memory control registers. -/
  memoryControl : MemoryControl
  /-- The RAM size register. -/
  ramSize : UInt32
  /-- The cache control register. -/
  cacheControl : UInt32

/-- The bus at power on, with a boot ROM plugged in. -/
def Bus.powerOn (bios : Bios) : Bus :=
  ⟨bios, .powerOn, .powerOn, .powerOn, .powerOn, .powerOn, 0, 0⟩

end Playstation
