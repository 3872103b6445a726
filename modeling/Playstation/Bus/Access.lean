import Playstation.Bus.Transfer

/-!
# Loads and stores on the bus

Every access names a width and a virtual address. Peeking tells the value
there without the devices noticing; a load is a peek that the graphics
processor notices when the read port is addressed. A store reaches exactly one
region, and one that leaves a DMA channel ready runs its transfer.
-/

namespace Playstation

namespace Bus

/-- The value which a region shows at a physical address, read with a given
width. -/
def peekRegion (bus : Bus) (w : Width) (region : Region) (address : UInt32) :
    Except BusFault UInt32 :=
  let offset := region.offsetOf address
  match region with
  | .bios => .ok (bus.bios.image.load w offset.toNat)
  | .ram => .ok (bus.ram.load w offset.toNat)
  | .interruptControl | .timers | .cdrom => .ok 0
  | .dma =>
    match bus.dma.load (offset &&& 0xfffffffc) with
    | .ok value => .ok (narrow w value offset)
    | .error fault => .error (.dma fault)
  | .gpu => .ok (narrow w (if offset < 4 then bus.gpu.latch else bus.gpu.status) offset)
  | .expansion1 | .expansion2 => .ok w.allOnes
  | .spu => .ok (bus.spu.load w address)
  | .memoryControl => .ok (narrow w (bus.memoryControl.load offset) offset)
  | .cacheControl => .ok bus.cacheControl
  | .ramSize => .ok bus.ramSize

/-- Load without the devices noticing. The read port of the graphics processor
shows the word it returned last. -/
def peek (bus : Bus) (w : Width) (address : UInt32) : Except BusFault UInt32 :=
  if w.aligns address then
    match Region.find? (physical address) with
    | some region => bus.peekRegion w region (physical address)
    | none => .error (.unmapped (physical address))
  else .error (.unaligned address w)

/-- Whether an access is one to the read port of the graphics processor. -/
def readsImage (w : Width) (address : UInt32) : Bool :=
  w.aligns address && Region.find? (physical address) == some .gpu &&
    Region.gpu.offsetOf (physical address) < 4

/-- The bus after the devices have noticed a load. -/
def notice (bus : Bus) (w : Width) (address : UInt32) : Bus :=
  if readsImage w address then { bus with gpu := bus.gpu.read } else bus

/-- Load a value. -/
def load (bus : Bus) (w : Width) (address : UInt32) : Bus × Except BusFault UInt32 :=
  let bus := bus.notice w address
  (bus, bus.peek w address)

/-- The value that a store to a DMA register writes. Bytes outside a narrow
store keep their value, except that interrupt flags outside it are not written
back, which would acknowledge them. -/
def dmaStoreValue (bus : Bus) (w : Width) (offset value : UInt32) : Except DmaFault UInt32 :=
  let register := offset &&& 0xfffffffc
  match w with
  | .word => .ok value
  | _ =>
    match bus.dma.load register with
    | .ok old =>
      .ok (merge w (if register = 0x74 then old &&& 0x00ffffff else old) value offset)
    | .error fault => .error fault

/-- Store to a DMA register, and run the transfer it starts. -/
def storeDma (bus : Bus) (w : Width) (offset value : UInt32) : Bus × Option DmaFault :=
  match bus.dmaStoreValue w offset value with
  | .error fault => (bus, some fault)
  | .ok value =>
    match bus.dma.store (offset &&& 0xfffffffc) value with
    | .error fault => (bus, some fault)
    | .ok (dma, none) => ({ bus with dma }, none)
    | .ok (dma, some port) => { bus with dma }.transfer port

/-- Store to a port of the graphics processor. -/
def storeGpu (bus : Bus) (offset value : UInt32) : Bus :=
  let word := widen value offset
  { bus with gpu := if offset < 4 then bus.gpu.gp0 word else bus.gpu.gp1 word }

/-- Store to a region at a physical address. -/
def storeRegion (bus : Bus) (w : Width) (region : Region) (address value : UInt32) :
    Bus × Option BusFault :=
  let offset := region.offsetOf address
  match region with
  | .bios | .interruptControl | .expansion1 | .expansion2 | .timers | .cdrom => (bus, none)
  | .ram => ({ bus with ram := bus.ram.store w offset.toNat value }, none)
  | .dma =>
    match bus.storeDma w offset value with
    | (bus, some fault) => (bus, some (.dma fault))
    | (bus, none) => (bus, none)
  | .gpu => (bus.storeGpu offset value, none)
  | .spu => ({ bus with spu := bus.spu.store w address value }, none)
  | .memoryControl =>
    match bus.memoryControl.store offset (merge w (bus.memoryControl.load offset) value offset) with
    | .ok memoryControl => ({ bus with memoryControl }, none)
    | .error fault => (bus, some fault)
  | .cacheControl => ({ bus with cacheControl := value }, none)
  | .ramSize => ({ bus with ramSize := value }, none)

/-- Store a value, of which the bus sees the low bytes of the width in most
regions. -/
def store (bus : Bus) (w : Width) (address value : UInt32) : Bus × Option BusFault :=
  if w.aligns address then
    match Region.find? (physical address) with
    | some region => bus.storeRegion w region (physical address) value
    | none => (bus, some (.unmapped (physical address)))
  else (bus, some (.unaligned address w))

end Bus

end Playstation
