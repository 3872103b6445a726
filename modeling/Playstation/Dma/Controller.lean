import Playstation.Dma.Channel
import Playstation.Hex

/-!
# The DMA controller

Seven channels share a control register, which is kept without effect, and an
interrupt register. A channel that ends its transfer while its interrupt is
enabled sets its flag; software clears a flag by writing a one to it. Register
writes report the port whose channel they leave ready to transfer.
-/

namespace Playstation

/-- Why the DMA controller refuses a register access or a transfer. -/
inductive DmaFault where
  /-- The control register was written with a sync mode that does not exist. -/
  | invalidSyncMode (number : UInt32)
  /-- There is no register at the offset. -/
  | invalidRegister (offset : UInt32)
  /-- The device of the port cannot take part in a block transfer. -/
  | unsupportedTransfer (port : Port) (direction : Direction)
  /-- Only the graphics processor reads linked lists. -/
  | invalidLinkedList (port : Port) (direction : Direction)
  /-- A linked list has more nodes than main memory has words. -/
  | malformedLinkedList (start : UInt32)
  deriving DecidableEq

/-- The text of a fault. -/
def DmaFault.message : DmaFault → String
  | invalidSyncMode number => s!"invalid sync mode {number} written to channel control"
  | invalidRegister offset => s!"no DMA register at offset {hexMarked 2 offset.toNat}"
  | unsupportedTransfer port direction =>
    s!"unsupported DMA block transfer {direction.name} on port {port.name}"
  | invalidLinkedList port direction =>
    s!"linked list DMA must run from RAM to the GPU, not {direction.name} on port {port.name}"
  | malformedLinkedList start =>
    s!"DMA linked list starting at {hexMarked 6 start.toNat} doesn't terminate"

/-- The interrupt register, field by field. The two masks have one bit for
each channel. -/
structure Interrupts where
  /-- Six bits which are kept and mean nothing. -/
  spare : UInt8
  /-- Raises the interrupt line unconditionally. -/
  force : Bool
  /-- Channels whose end is reported. -/
  enabled : UInt8
  /-- Whether flags raise the interrupt line at all. -/
  master : Bool
  /-- Channels whose end has been reported and not yet acknowledged. -/
  flags : UInt8
  deriving DecidableEq

namespace Interrupts

/-- No interrupt enabled and none pending. -/
def powerOn : Interrupts := ⟨0, false, 0, false, 0⟩

/-- The state of the interrupt line. -/
def line (interrupts : Interrupts) : Bool :=
  interrupts.force || (interrupts.master && interrupts.flags &&& interrupts.enabled != 0)

/-- Read the register. The top bit shows the line. -/
def read (interrupts : Interrupts) : UInt32 :=
  let value := interrupts.spare.toUInt32
  let value := setBit value 15 interrupts.force
  let value := setBits value 16 22 interrupts.enabled.toUInt32
  let value := setBit value 23 interrupts.master
  let value := setBits value 24 30 interrupts.flags.toUInt32
  setBit value 31 interrupts.line

/-- Write the register. A one written to a flag acknowledges it. -/
def write (interrupts : Interrupts) (value : UInt32) : Interrupts where
  spare := (bits value 0 5).toUInt8
  force := bit value 15
  enabled := (bits value 16 22).toUInt8
  master := bit value 23
  flags := interrupts.flags &&& ~~~(bits value 24 30).toUInt8

/-- Report the end of a transfer on a port, if that is enabled. -/
def complete (interrupts : Interrupts) (port : Port) : Interrupts :=
  let number := port.index.val
  if bit interrupts.enabled number then
    { interrupts with flags := setBit interrupts.flags number true }
  else interrupts

end Interrupts

/-- The DMA controller. -/
structure Dma where
  /-- Priorities and enable bits of the channels, kept without effect because
  transfers run one at a time. -/
  control : UInt32
  /-- The interrupt register. -/
  interrupts : Interrupts
  /-- The channels in port order. -/
  channels : Vector Channel 7
  deriving DecidableEq

/-- The registers in the window of the controller. -/
inductive DmaRegister where
  /-- Start address of a channel. -/
  | base (port : Port)
  /-- Transfer size of a channel. -/
  | blockControl (port : Port)
  /-- Control register of a channel. -/
  | channelControl (port : Port)
  /-- Shared control register. -/
  | control
  /-- Interrupt register. -/
  | interrupt
  deriving DecidableEq

namespace DmaRegister

/-- The register at an offset. Bits 4 to 6 select the channel, the number
after the last channel standing for the shared registers, and the low bits
select the register. -/
def ofOffset? (offset : UInt32) : Option DmaRegister :=
  match Port.ofNat? (bits offset 4 6).toNat, (bits offset 0 3).toNat with
  | some port, 0 => some (base port)
  | some port, 4 => some (blockControl port)
  | some port, 8 => some (channelControl port)
  | none, 0 => some control
  | none, 4 => some interrupt
  | _, _ => none

/-- The port to whose channel the register belongs. -/
def port? : DmaRegister → Option Port
  | base port | blockControl port | channelControl port => some port
  | control | interrupt => none

end DmaRegister

namespace Dma

/-- The controller at power on. -/
def powerOn : Dma where
  control := 0x07654321
  interrupts := .powerOn
  channels := Vector.replicate 7 .powerOn

/-- The channel of a port. -/
def channel (dma : Dma) (port : Port) : Channel := dma.channels[port.index]

/-- Replace the channel of a port. -/
def setChannel (dma : Dma) (port : Port) (channel : Channel) : Dma :=
  { dma with channels := dma.channels.set port.index channel }

/-- The value of a register. -/
def read (dma : Dma) : DmaRegister → UInt32
  | .base port => (dma.channel port).base
  | .blockControl port => (dma.channel port).blockControl
  | .channelControl port => (dma.channel port).control
  | .control => dma.control
  | .interrupt => dma.interrupts.read

/-- Write a register. Only a control write can be refused. -/
def write (dma : Dma) (register : DmaRegister) (value : UInt32) : Except DmaFault Dma :=
  match register with
  | .base port => .ok (dma.setChannel port ((dma.channel port).setBase value))
  | .blockControl port => .ok (dma.setChannel port ((dma.channel port).setBlockControl value))
  | .channelControl port =>
    match Channel.setControl? port (dma.channel port) value with
    | some channel => .ok (dma.setChannel port channel)
    | none => .error (.invalidSyncMode (Channel.syncNumber value))
  | .control => .ok { dma with control := value }
  | .interrupt => .ok { dma with interrupts := dma.interrupts.write value }

/-- Load the register at an offset. -/
def load (dma : Dma) (offset : UInt32) : Except DmaFault UInt32 :=
  match DmaRegister.ofOffset? offset with
  | some register => .ok (dma.read register)
  | none => .error (.invalidRegister offset)

/-- The port of a register's channel, if that channel is ready to transfer. -/
def ready? (dma : Dma) (register : DmaRegister) : Option Port :=
  register.port?.filter fun port => (dma.channel port).isActive

/-- Store to the register at an offset, and report the port whose transfer is
to run. A refused store changes nothing. -/
def store (dma : Dma) (offset value : UInt32) : Except DmaFault (Dma × Option Port) :=
  match DmaRegister.ofOffset? offset with
  | some register =>
    match dma.write register value with
    | .ok dma => .ok (dma, dma.ready? register)
    | .error fault => .error fault
  | none => .error (.invalidRegister offset)

/-- The controller after the transfer on a port has ended. -/
def complete (dma : Dma) (port : Port) : Dma :=
  { dma.setChannel port (dma.channel port).finish with
    interrupts := dma.interrupts.complete port }

end Dma

end Playstation
