import Playstation.Bits

/-!
# DMA channels

A channel moves words between main memory and the device of its port. It has
three registers: the start address, the size of the transfer, and a control
register which packs the mode of the transfer and the flags that start it.
Bits of the control register without a field are not kept and read as zero.
-/

namespace Playstation

/-- The devices which have a DMA channel, in channel order. -/
inductive Port where
  /-- Input of the picture decoder. -/
  | mdecIn
  /-- Output of the picture decoder. -/
  | mdecOut
  /-- Graphics processor. -/
  | gpu
  /-- Disc drive. -/
  | cdRom
  /-- Sound processor. -/
  | spu
  /-- Expansion port. -/
  | pio
  /-- Ordering table, a memory clear without a device behind it. -/
  | otc
  deriving DecidableEq, Repr

namespace Port

/-- Every port in channel order. -/
def all : List Port := [mdecIn, mdecOut, gpu, cdRom, spu, pio, otc]

/-- Number of the channel which belongs to the port. -/
def index : Port → Fin 7
  | mdecIn => 0
  | mdecOut => 1
  | gpu => 2
  | cdRom => 3
  | spu => 4
  | pio => 5
  | otc => 6

/-- The port of a channel number, if there is such a channel. -/
def ofNat? : Nat → Option Port
  | 0 => some mdecIn
  | 1 => some mdecOut
  | 2 => some gpu
  | 3 => some cdRom
  | 4 => some spu
  | 5 => some pio
  | 6 => some otc
  | _ => none

/-- The name used in messages. -/
def name : Port → String
  | mdecIn => "MdecIn"
  | mdecOut => "MdecOut"
  | gpu => "Gpu"
  | cdRom => "CdRom"
  | spu => "Spu"
  | pio => "Pio"
  | otc => "Otc"

end Port

/-- Which way a channel moves words. -/
inductive Direction where
  /-- From the device into main memory. -/
  | toRam
  /-- From main memory to the device. -/
  | fromRam
  deriving DecidableEq, Repr

/-- The name used in messages. -/
def Direction.name : Direction → String
  | toRam => "ToRam"
  | fromRam => "FromRam"

/-- Which way the address moves after each word. -/
inductive Step where
  /-- Upwards. -/
  | increment
  /-- Downwards. -/
  | decrement
  deriving DecidableEq, Repr

/-- The amount added to the address, modulo the size of the address space. -/
def Step.amount : Step → UInt32
  | increment => 4
  | decrement => 0xfffffffc

/-- How a transfer is paced and how its length is found. -/
inductive SyncMode where
  /-- All at once, as soon as the start flag is set. -/
  | manual
  /-- In blocks, whenever the device asks for one. -/
  | request
  /-- Along a list of nodes in main memory. -/
  | linkedList
  deriving DecidableEq, Repr

namespace SyncMode

/-- The mode with a given number, of which there are three. -/
def ofNumber? (number : UInt32) : Option SyncMode :=
  match number.toNat with
  | 0 => some manual
  | 1 => some request
  | 2 => some linkedList
  | _ => none

/-- Number of the mode in the control register. -/
def number : SyncMode → UInt32
  | manual => 0
  | request => 1
  | linkedList => 2

end SyncMode

/-- The registers of one channel, field by field. -/
structure Channel where
  /-- Start address, 24 bits. -/
  base : UInt32
  /-- Words in a block. -/
  blockSize : UInt16
  /-- Blocks in a transfer in request mode. -/
  blockCount : UInt16
  /-- Direction of the transfer. -/
  direction : Direction
  /-- Direction of the address. -/
  step : Step
  /-- Whether the processor may run between parts of a transfer. It is kept,
  but transfers are never interrupted. -/
  chop : Bool
  /-- Length of the parts of a chopped transfer, three bits. -/
  chopDmaSize : UInt8
  /-- Length of the gaps in a chopped transfer, three bits. -/
  chopCpuSize : UInt8
  /-- Pacing of the transfer. -/
  sync : SyncMode
  /-- Whether the channel is enabled. -/
  enable : Bool
  /-- Start flag of manual transfers. -/
  trigger : Bool
  /-- Two bits which are kept and mean nothing. -/
  spare : UInt8
  deriving DecidableEq

namespace Channel

/-- A channel at power on: every field clear. -/
def powerOn : Channel where
  base := 0
  blockSize := 0
  blockCount := 0
  direction := .toRam
  step := .increment
  chop := false
  chopDmaSize := 0
  chopCpuSize := 0
  sync := .manual
  enable := false
  trigger := false
  spare := 0

/-- Write the start address. -/
def setBase (channel : Channel) (value : UInt32) : Channel :=
  { channel with base := bits value 0 23 }

/-- Read the size of the transfer. -/
def blockControl (channel : Channel) : UInt32 :=
  setBits channel.blockSize.toUInt32 16 31 channel.blockCount.toUInt32

/-- Write the size of the transfer. -/
def setBlockControl (channel : Channel) (value : UInt32) : Channel :=
  { channel with
    blockSize := (bits value 0 15).toUInt16
    blockCount := (bits value 16 31).toUInt16 }

/-- Read the control register. -/
def control (channel : Channel) : UInt32 :=
  let value : UInt32 := 0
  let value := setBit value 0 (channel.direction = .fromRam)
  let value := setBit value 1 (channel.step = .decrement)
  let value := setBit value 8 channel.chop
  let value := setBits value 9 10 channel.sync.number
  let value := setBits value 16 18 channel.chopDmaSize.toUInt32
  let value := setBits value 20 22 channel.chopCpuSize.toUInt32
  let value := setBit value 24 channel.enable
  let value := setBit value 28 channel.trigger
  setBits value 29 30 channel.spare.toUInt32

/-- The control value which a write to the channel of `port` leaves behind.
The ordering table has only its enable, start and one spare bit, and always
moves downwards. -/
def controlMask (port : Port) (value : UInt32) : UInt32 :=
  match port with
  | .otc => (value &&& 0x51000000) ||| 2
  | _ => value

/-- Number of the sync mode which a control value asks for. -/
def syncNumber (value : UInt32) : UInt32 := bits value 9 10

/-- Write the control register of the channel of `port`, refused as a whole if
there is no sync mode of the number asked for. -/
def setControl? (port : Port) (channel : Channel) (value : UInt32) : Option Channel :=
  let value := controlMask port value
  (SyncMode.ofNumber? (syncNumber value)).map fun sync =>
    { channel with
      direction := if bit value 0 then .fromRam else .toRam
      step := if bit value 1 then .decrement else .increment
      chop := bit value 8
      chopDmaSize := (bits value 16 18).toUInt8
      chopCpuSize := (bits value 20 22).toUInt8
      sync := sync
      enable := bit value 24
      trigger := bit value 28
      spare := (bits value 29 30).toUInt8 }

/-- Whether the channel is ready to transfer. A manual transfer also needs the
start flag. -/
def isActive (channel : Channel) : Bool :=
  channel.enable &&
    match channel.sync with
    | .manual => channel.trigger
    | _ => true

/-- The channel after its transfer has ended. -/
def finish (channel : Channel) : Channel :=
  { channel with enable := false, trigger := false }

/-- Number of words to transfer, absent in linked list mode, where the list
says it. A manual block size of zero stands for the most. -/
def transferSize? (channel : Channel) : Option Nat :=
  match channel.sync with
  | .manual => some (if channel.blockSize = 0 then 0x10000 else channel.blockSize.toNat)
  | .request => some (channel.blockSize.toNat * channel.blockCount.toNat)
  | .linkedList => none

end Channel

end Playstation
