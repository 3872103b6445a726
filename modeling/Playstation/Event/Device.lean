import Playstation.Bus.Access
import Playstation.Log.Level

/-!
# What devices report

Devices report unusual accesses and larger operations. Reports are computed
from the state before an operation and never change it, so an operation is the
same whether anybody listens or not.
-/

namespace Playstation

/-- A report of the graphics processor. -/
inductive GpuEvent where
  /-- A command that does nothing. -/
  | nop (word : UInt32)
  /-- The texture cache is cleared. -/
  | clearCache
  /-- A drawing command has arrived in full. -/
  | draw (command : Gp0Command) (word : UInt32) (length : Nat)
  /-- A poly-line begins. -/
  | polyLine (word : UInt32)
  /-- A poly-line ends. -/
  | polyLineDone
  /-- An image into video memory begins. -/
  | imageLoad (x y : Nat)
  /-- An image out of video memory begins. -/
  | imageStore (x y : Nat)
  /-- An image into video memory is complete. -/
  | imageLoadDone
  /-- No command of the drawing port begins with this word. -/
  | unknownGp0 (word : UInt32)
  /-- No command of the control port has this top byte. -/
  | unknownGp1 (opcode : UInt32)
  /-- A question about the settings has no answer. -/
  | infoKept (question : UInt32)
  deriving DecidableEq

/-- A report of the sound processor. -/
inductive SpuEvent where
  /-- A byte is loaded, which is not connected. -/
  | byteLoad (address : UInt32)
  /-- A byte is stored, which is not connected. -/
  | byteStore (address value : UInt32)
  /-- A halfword is stored to an address of something else. -/
  | outside (address : UInt32) (value : UInt16)
  /-- Voices are started. -/
  | keyOn (value : UInt16)
  /-- Voices are stopped. -/
  | keyOff (value : UInt16)
  deriving DecidableEq

/-- A report of the DMA controller. -/
inductive DmaEvent where
  /-- A channel is set to be interrupted by the processor. -/
  | chopping (port : Port)
  /-- The interrupt line is high at the end of a transfer. -/
  | interrupt (port : Port)
  /-- A block transfer begins. -/
  | block (size : Nat) (direction : Direction) (port : Port) (address : UInt32)
  /-- A linked list transfer begins. -/
  | linkedList (start : UInt32)
  deriving DecidableEq

/-- A report of the bus itself. -/
inductive BusEvent where
  /-- A load from a device that is not modelled. -/
  | stubLoad (device : String) (offset : UInt32)
  /-- A store to a device that is not modelled, with at least `digits` digits
  of the value. -/
  | stubStore (device : String) (digits : Nat) (value offset : UInt32)
  /-- A store to the boot ROM. -/
  | biosStore (address : UInt32)
  /-- A store to an expansion port. -/
  | expansionStore (value address : UInt32)
  /-- A store to the cache control register. -/
  | cacheControl (value : UInt32)
  /-- A store to the RAM size register. -/
  | ramSize (value : UInt32)
  deriving DecidableEq

namespace Gpu

/-- What the graphics processor reports when a command runs, given its words up
to the last one, and the last one. -/
def executeEvent? (command : Gp0Command) (words : Array UInt32) (last : UInt32) :
    Option GpuEvent :=
  let word (k : Nat) : UInt32 := if k = words.size then last else words.getD k 0
  match command with
  | .fillRect | .vramToVram => none
  | .polygon | .line | .rect => some (.draw command (word 0) (words.size + 1))
  | .cpuToVram =>
    let image := Rect.ofImageWords (word 1) (word 2)
    some (.imageLoad image.left image.top)
  | .vramToCpu =>
    let image := Rect.ofImageWords (word 1) (word 2)
    some (.imageStore image.left image.top)

/-- What the graphics processor reports when a command starts. -/
@[inline] def startEvent? (word : UInt32) : Option GpuEvent :=
  match Gp0Start.ofWord word with
  | .nop => some (.nop word)
  | .clearCache => some .clearCache
  | .polyLine => some (.polyLine word)
  | .unknown => some (.unknownGp0 word)
  | _ => none

/-- What the graphics processor reports about a word at the drawing port. -/
@[inline] def gp0Event? (gpu : Gpu) (word : UInt32) : Option GpuEvent :=
  match gpu.phase with
  | .idle | .loading _ _ => startEvent? word
  | .collecting command words remaining =>
    if remaining > 1 then none else executeEvent? command words word
  | .polyLine => if endsPolyLine word then some .polyLineDone else none
  | .storing image done => if done + 2 < image.area then none else some .imageLoadDone

/-- What the graphics processor reports about a word at the control port. -/
def gp1Event? (gpu : Gpu) (word : UInt32) : Option GpuEvent :=
  let opcode := topByte word
  if opcode < 0x09 then none
  else if 0x10 ≤ opcode ∧ opcode ≤ 0x1f then
    match gpu.info? (bits word 0 3) with
    | some _ => none
    | none => some (.infoKept (bits word 0 23))
  else some (.unknownGp1 opcode)

end Gpu

namespace Spu

/-- What the sound processor reports about a halfword store. -/
def store16Events (address : UInt32) (value : UInt16) : List SpuEvent :=
  match register? address with
  | none => [.outside address value]
  | some register =>
    if register = 0xc4 ∨ register = 0xc5 then [.keyOn value]
    else if register = 0xc6 ∨ register = 0xc7 then [.keyOff value]
    else []

/-- What the sound processor reports about a load. -/
def loadEvents (w : Width) (address : UInt32) : List SpuEvent :=
  match w with
  | .byte => [.byteLoad address]
  | _ => []

/-- What the sound processor reports about a store. -/
def storeEvents (w : Width) (address value : UInt32) : List SpuEvent :=
  match w with
  | .byte => [.byteStore address value]
  | .half => store16Events address value.toUInt16
  | .word =>
    store16Events address value.toUInt16 ++
      store16Events (address ||| 2) (value >>> 16).toUInt16

end Spu

namespace Dma

/-- What a channel reports about a write to its control register. -/
def controlEvents (port : Port) (channel : Channel) (value : UInt32) : List DmaEvent :=
  match Channel.setControl? port channel value with
  | some channel => if channel.chop then [.chopping port] else []
  | none => []

/-- What the DMA controller reports about a store to one of its registers. -/
def storeEvents (dma : Dma) (offset value : UInt32) : List DmaEvent :=
  match DmaRegister.ofOffset? offset with
  | some (.channelControl port) => controlEvents port (dma.channel port) value
  | _ => []

/-- What the DMA controller reports at the end of a transfer. -/
def completeEvents (dma : Dma) (port : Port) : List DmaEvent :=
  if (dma.complete port).interrupts.line then [.interrupt port] else []

end Dma

/-- A report of anything on the bus. -/
inductive DeviceEvent where
  /-- From the graphics processor. -/
  | gpu (event : GpuEvent)
  /-- From the sound processor. -/
  | spu (event : SpuEvent)
  /-- From the DMA controller. -/
  | dma (event : DmaEvent)
  /-- From the bus itself. -/
  | bus (event : BusEvent)
  deriving DecidableEq

/-- The graphics processor with the reports it has made on the way. -/
structure WatchedGpu where
  /-- The graphics processor. -/
  gpu : Gpu
  /-- Its reports so far. -/
  events : Array DeviceEvent

/-- Write a word to the drawing port and take down the report if it is wanted.
A transfer can have too many words to keep all reports. -/
@[inline] def WatchedGpu.gp0 (wanted : DeviceEvent → Bool) (watched : WatchedGpu)
    (word : UInt32) : WatchedGpu :=
  let ⟨gpu, events⟩ := watched
  match gpu.gp0Event? word with
  | none => ⟨gpu.gp0 word, events⟩
  | some event =>
    if wanted (.gpu event) then ⟨gpu.gp0 word, events.push (.gpu event)⟩
    else ⟨gpu.gp0 word, events⟩

namespace Bus

/-- What is reported about a transfer, with those reports on its words which are
wanted. -/
def transferEvents (wanted : DeviceEvent → Bool) (bus : Bus) (port : Port) :
    Array DeviceEvent :=
  let channel := bus.dma.channel port
  let ending := ((bus.dma.completeEvents port).map DeviceEvent.dma).toArray
  match port, channel.direction, channel.transferSize? with
  | .gpu, .fromRam, some size =>
    let start := #[.dma (.block size .fromRam port channel.base)]
    (foldBlock (WatchedGpu.gp0 wanted) bus.ram channel.step.amount size channel.base
      ⟨bus.gpu, start⟩).events ++ ending
  | .gpu, .fromRam, none =>
    match foldList (WatchedGpu.gp0 wanted) bus.ram maxListNodes (wordOffset channel.base)
      ⟨bus.gpu, #[.dma (.linkedList channel.base)]⟩ with
    | (watched, true) => watched.events ++ ending
    | (watched, false) => watched.events
  | .otc, .toRam, some size => #[.dma (.block size .toRam port channel.base)] ++ ending
  | _, _, _ => #[]

/-- What is reported about a store to a DMA register. -/
def storeDmaEvents (wanted : DeviceEvent → Bool) (bus : Bus) (w : Width)
    (offset value : UInt32) : Array DeviceEvent :=
  match bus.dmaStoreValue w offset value with
  | .error _ => #[]
  | .ok value =>
    let writing := ((bus.dma.storeEvents (offset &&& 0xfffffffc) value).map DeviceEvent.dma).toArray
    match bus.dma.store (offset &&& 0xfffffffc) value with
    | .ok (dma, some port) => writing ++ { bus with dma }.transferEvents wanted port
    | _ => writing

/-- What is reported about a load from a region. -/
def regionLoadEvents (w : Width) (region : Region) (address : UInt32) : List DeviceEvent :=
  let offset := region.offsetOf address
  match region with
  | .interruptControl => [.bus (.stubLoad "interrupt control" offset)]
  | .timers => [.bus (.stubLoad "timer" offset)]
  | .cdrom => [.bus (.stubLoad "CDROM" offset)]
  | .spu => (Spu.loadEvents w address).map .spu
  | _ => []

/-- What is reported about a load or a peek. -/
def loadEvents (w : Width) (address : UInt32) : Array DeviceEvent :=
  if w.aligns address then
    match Region.find? (physical address) with
    | some region => (regionLoadEvents w region (physical address)).toArray
    | none => #[]
  else #[]

/-- What is reported about a store to the memory control registers. -/
def memoryControlEvents (bus : Bus) (w : Width) (offset value : UInt32) : List BusEvent :=
  if offset < 8 then []
  else
    [.stubStore "memory control" 8 (merge w (bus.memoryControl.load offset) value offset)
      (offset &&& 0xfffffffc)]

/-- What is reported about a store to a region. -/
def regionStoreEvents (wanted : DeviceEvent → Bool) (bus : Bus) (w : Width) (region : Region)
    (address value : UInt32) : Array DeviceEvent :=
  let offset := region.offsetOf address
  match region with
  | .bios => #[.bus (.biosStore address)]
  | .ram => #[]
  | .interruptControl => #[.bus (.stubStore "interrupt control" 8 value offset)]
  | .dma => bus.storeDmaEvents wanted w offset value
  | .gpu =>
    let word := widen value offset
    let event := if offset < 4 then bus.gpu.gp0Event? word else bus.gpu.gp1Event? word
    (event.map DeviceEvent.gpu).toArray
  | .expansion1 | .expansion2 => #[.bus (.expansionStore value address)]
  | .timers => #[.bus (.stubStore "timer" 8 value offset)]
  | .cdrom => #[.bus (.stubStore "CDROM" 2 value offset)]
  | .spu => ((Spu.storeEvents w address value).map DeviceEvent.spu).toArray
  | .memoryControl => ((bus.memoryControlEvents w offset value).map DeviceEvent.bus).toArray
  | .cacheControl => #[.bus (.cacheControl value)]
  | .ramSize => #[.bus (.ramSize value)]

/-- What is reported about a store, as far as it is wanted. -/
def storeEvents (wanted : DeviceEvent → Bool) (bus : Bus) (w : Width) (address value : UInt32) :
    Array DeviceEvent :=
  if w.aligns address then
    match Region.find? (physical address) with
    | some region =>
      (bus.regionStoreEvents wanted w region (physical address) value).filter wanted
    | none => #[]
  else #[]

end Bus

end Playstation
