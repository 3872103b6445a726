import Playstation.Bits

/-!
# The address space

Virtual addresses fall into segments of which three show the same physical
memory. After the segment bits are masked away, a physical address belongs to
the first region whose window contains it, or to none. The windows are tried
in the order of `Region.all`.
-/

namespace Playstation

/-- A window of at least one byte in the physical address space. -/
structure AddressRange where
  /-- First address inside. -/
  start : UInt32
  /-- Number of addresses inside. -/
  length : UInt32
  /-- A window is never empty. -/
  nonempty : 0 < length := by decide
  deriving DecidableEq

namespace AddressRange

/-- The window of the given start and length, refused if it would be empty. -/
def ofLength? (start length : UInt32) : Option AddressRange :=
  if h : 0 < length then some ⟨start, length, h⟩ else none

/-- Whether an address lies inside. The distance from the start is compared,
which stays correct for a window at the very top of the address space. -/
def contains (range : AddressRange) (address : UInt32) : Bool :=
  range.start ≤ address && address - range.start < range.length

/-- Distance of an address from the start, if it lies inside. -/
def offset? (range : AddressRange) (address : UInt32) : Option UInt32 :=
  if range.contains address then some (address - range.start) else none

end AddressRange

/-- The address bits kept in the segment of a virtual address: all of them in
the lower half of the address space and in its last quarter, while the two
segments between show the first 512 MB of physical memory. -/
def segmentMask (address : UInt32) : UInt32 :=
  match (address >>> 29).toNat with
  | 4 => 0x7fffffff
  | 5 => 0x1fffffff
  | _ => 0xffffffff

/-- The physical address which a virtual address names. -/
def physical (address : UInt32) : UInt32 := address &&& segmentMask address

/-- What a physical address can belong to. -/
inductive Region where
  /-- The boot ROM. -/
  | bios
  /-- Main memory. -/
  | ram
  /-- Interrupt controller. -/
  | interruptControl
  /-- Registers of the DMA controller. -/
  | dma
  /-- The two ports of the graphics processor. -/
  | gpu
  /-- First expansion port. -/
  | expansion1
  /-- Second expansion port. -/
  | expansion2
  /-- Timers. -/
  | timers
  /-- Disc drive. -/
  | cdrom
  /-- Registers of the sound processor. -/
  | spu
  /-- Memory control registers. -/
  | memoryControl
  /-- Cache control register. -/
  | cacheControl
  /-- RAM size register. -/
  | ramSize
  deriving DecidableEq, Repr

namespace Region

/-- The window of a region. -/
def range : Region → AddressRange
  | bios => ⟨0x1fc00000, 0x80000, by decide⟩
  | ram => ⟨0, 0x200000, by decide⟩
  | interruptControl => ⟨0x1f801070, 8, by decide⟩
  | dma => ⟨0x1f801080, 0x80, by decide⟩
  | gpu => ⟨0x1f801810, 8, by decide⟩
  | expansion1 => ⟨0x1f000000, 0x80000, by decide⟩
  | expansion2 => ⟨0x1f802000, 66, by decide⟩
  | timers => ⟨0x1f801100, 0x30, by decide⟩
  | cdrom => ⟨0x1f801800, 4, by decide⟩
  | spu => ⟨0x1f801c00, 640, by decide⟩
  | memoryControl => ⟨0x1f801000, 36, by decide⟩
  | cacheControl => ⟨0xfffe0130, 4, by decide⟩
  | ramSize => ⟨0x1f801060, 4, by decide⟩

/-- All regions in the order in which their windows are tried. -/
def all : List Region :=
  [bios, ram, interruptControl, dma, gpu, expansion1, expansion2, timers, cdrom, spu,
    memoryControl, cacheControl, ramSize]

/-- The first region whose window contains a physical address. -/
def find? (address : UInt32) : Option Region :=
  all.find? fun region => region.range.contains address

/-- Distance of a physical address from the start of a region's window. -/
def offsetOf (region : Region) (address : UInt32) : UInt32 :=
  address - region.range.start

end Region

end Playstation
