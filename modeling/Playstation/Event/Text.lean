import Playstation.Event.Processor
import Playstation.Instruction.Text

/-!
# Log messages

Every report has a level, a target naming the part of the machine it comes
from, and a text.
-/

namespace Playstation

/-- The parts of the machine which log under a name of their own. -/
inductive Component where
  /-- The processor. -/
  | cpu
  /-- The system coprocessor. -/
  | cop0
  /-- The bus. -/
  | bus
  /-- The DMA controller. -/
  | dma
  /-- The graphics processor. -/
  | gpu
  /-- Commands of the drawing port. -/
  | gp0
  /-- Commands of the control port. -/
  | gp1
  /-- The sound processor. -/
  | spu
  deriving DecidableEq

/-- The name under which a part of the machine logs. -/
def Component.target : Component → String
  | cpu => "psx_core::cpu"
  | cop0 => "psx_core::cpu::cop0"
  | bus => "psx_core::bus"
  | dma => "psx_core::bus::dma"
  | gpu => "psx_core::gpu"
  | gp0 => "psx_core::gpu::gp0"
  | gp1 => "psx_core::gpu::gp1"
  | spu => "psx_core::spu"

namespace GpuEvent

/-- Level of a report. -/
def level : GpuEvent → Level
  | unknownGp0 _ | unknownGp1 _ => .warn
  | _ => .trace

/-- Origin of a report. -/
def component : GpuEvent → Component
  | nop _ | clearCache | draw _ _ _ | polyLine _ | imageLoad _ _ | imageStore _ _ => .gp0
  | infoKept _ => .gp1
  | polyLineDone | imageLoadDone | unknownGp0 _ | unknownGp1 _ => .gpu

/-- Text of a report. -/
def text : GpuEvent → String
  | nop word => s!"GP0 nop {hex 8 word.toNat}"
  | clearCache => "GP0 clear texture cache"
  | draw command word length =>
    s!"GP0 draw {command.name} {hex 8 word.toNat} with {length} words"
  | polyLine word => s!"GP0 poly-line {hex 8 word.toNat}"
  | polyLineDone => "GP0 poly-line done"
  | imageLoad x y => s!"GP0 image load at ({x}, {y})"
  | imageStore x y => s!"GP0 image store at ({x}, {y})"
  | imageLoadDone => "GP0 image load done"
  | unknownGp0 word => s!"unknown GP0 command {hex 8 word.toNat}"
  | unknownGp1 opcode => s!"unknown GP1 command {hex 2 opcode.toNat}"
  | infoKept question => s!"GP1 info {hex 1 question.toNat} keeps GPUREAD"

end GpuEvent

namespace SpuEvent

/-- Level of a report. -/
def level : SpuEvent → Level
  | outside _ _ => .warn
  | _ => .trace

/-- Text of a report. -/
def text : SpuEvent → String
  | byteLoad address => s!"STUB: SPU byte load at {hex 8 address.toNat}"
  | byteStore address value =>
    s!"STUB: SPU byte store {hex 2 value.toNat} at {hex 8 address.toNat}"
  | outside address value =>
    s!"SPU store {hex 4 value.toNat} outside the SPU at {hex 8 address.toNat}"
  | keyOn value => s!"SPU key on {hex 4 value.toNat}"
  | keyOff value => s!"SPU key off {hex 4 value.toNat}"

end SpuEvent

namespace DmaEvent

/-- Level of a report. -/
def level : DmaEvent → Level
  | chopping _ | interrupt _ => .trace
  | block _ _ _ _ | linkedList _ => .debug

/-- Text of a report. -/
def text : DmaEvent → String
  | chopping port => s!"chopping enabled for DMA port {port.name}"
  | interrupt port => s!"DMA interrupt raised by port {port.name}"
  | block size direction port address =>
    s!"DMA block transfer of {size} words {direction.name} on port {port.name} at " ++
      hex 6 address.toNat
  | linkedList start => s!"DMA linked list transfer at {hex 6 start.toNat}"

end DmaEvent

namespace BusEvent

/-- Level of a report. -/
def level : BusEvent → Level
  | biosStore _ => .warn
  | _ => .trace

/-- Text of a report. -/
def text : BusEvent → String
  | stubLoad device offset => s!"STUB: {device} load at offset {offset}"
  | stubStore device digits value offset =>
    s!"STUB: {device} store {hex digits value.toNat} at offset {offset}"
  | biosStore address => s!"store to BIOS at {hex 8 address.toNat} ignored"
  | expansionStore value address =>
    s!"store {hex 8 value.toNat} to expansion at {hex 8 address.toNat} ignored"
  | cacheControl value => s!"cache control set to {hex 8 value.toNat}"
  | ramSize value => s!"RAM size set to {hex 8 value.toNat}"

end BusEvent

namespace DeviceEvent

/-- Level of a report. -/
def level : DeviceEvent → Level
  | gpu event => event.level
  | spu event => event.level
  | dma event => event.level
  | bus event => event.level

/-- Origin of a report. -/
def component : DeviceEvent → Component
  | gpu event => event.component
  | spu _ => .spu
  | dma _ => .dma
  | bus _ => .bus

/-- Text of a report. -/
def text : DeviceEvent → String
  | gpu event => event.text
  | spu event => event.text
  | dma event => event.text
  | bus event => event.text

end DeviceEvent

namespace Event

/-- Level of a report. -/
def level : Event → Level
  | illegal _ _ => .warn
  | device event => event.level
  | _ => .trace

/-- Origin of a report. -/
def component : Event → Component
  | ignoredWrite _ _ => .cop0
  | device event => event.component
  | _ => .cpu

/-- Text of a report. -/
def text : Event → String
  | instruction pc word => s!"{hex 8 pc.toNat}: {word.text}"
  | illegal word pc => s!"illegal instruction {hex 8 word.toNat} at {hex 8 pc.toNat}"
  | exception raised pc => s!"exception {raised.name} at {hex 8 pc.toNat}"
  | syscall argument => s!"syscall with $a0 = {hex 8 argument.toNat}"
  | isolatedStore value address =>
    s!"store {hex 8 value.toNat} to {hex 8 address.toNat} with cache isolated ignored"
  | ignoredWrite value register => s!"STUB: COP0 store {hex 8 value.toNat} to register {register}"
  | device event => event.text

end Event

end Playstation
