import Playstation.Bus.Transfer
import Playstation.Proofs.Checked.Gpu
import Playstation.Proofs.Checked.Memory

/-!
# The DMA controller, checked

Registers and transfers of the DMA controller, with every bit position, the
size of a transfer, the number of a channel and every offset in main memory
checked. The largest transfer has a size that fits into a word, and addresses
within main memory stay so small that the walk along a list can add to them.
-/

namespace Playstation

namespace Channel

variable (channel : Channel)

/-- Read the size of the transfer. -/
def checkedBlockControl : Option UInt32 :=
  checkedSetBits channel.blockSize.toUInt32 16 31 channel.blockCount.toUInt32

/-- Read the control register. -/
def checkedControl : Option UInt32 := do
  let value ← checkedSetBit 0 0 (channel.direction = .fromRam)
  let value ← checkedSetBit value 1 (channel.step = .decrement)
  let value ← checkedSetBit value 8 channel.chop
  let value ← checkedSetBits value 9 10 channel.sync.number
  let value ← checkedSetBits value 16 18 channel.chopDmaSize.toUInt32
  let value ← checkedSetBits value 20 22 channel.chopCpuSize.toUInt32
  let value ← checkedSetBit value 24 channel.enable
  let value ← checkedSetBit value 28 channel.trigger
  checkedSetBits value 29 30 channel.spare.toUInt32

/-- Write the start address. -/
def checkedSetBase (value : UInt32) : Option Channel := do
  let base ← checkedBits value 0 23
  return { channel with base }

/-- Write the size of the transfer. -/
def checkedSetBlockControl (value : UInt32) : Option Channel := do
  let blockSize ← checkedBits value 0 15
  let blockCount ← checkedBits value 16 31
  return { channel with blockSize := blockSize.toUInt16, blockCount := blockCount.toUInt16 }

/-- Write the control register of the channel of `port`, refused as a whole if
there is no sync mode of the number asked for. -/
def checkedSetControl (port : Port) (value : UInt32) : Option (Option Channel) := do
  let value := controlMask port value
  match SyncMode.ofNumber? (← checkedBits value 9 10) with
  | none => return none
  | some sync =>
    let fromRam ← checkedBit value 0
    let decrement ← checkedBit value 1
    let chop ← checkedBit value 8
    let chopDmaSize ← checkedBits value 16 18
    let chopCpuSize ← checkedBits value 20 22
    let enable ← checkedBit value 24
    let trigger ← checkedBit value 28
    let spare ← checkedBits value 29 30
    return some { channel with
      direction := if fromRam then .fromRam else .toRam
      step := if decrement then .decrement else .increment
      chop
      chopDmaSize := chopDmaSize.toUInt8
      chopCpuSize := chopCpuSize.toUInt8
      sync
      enable
      trigger
      spare := spare.toUInt8 }

/-- Number of words to transfer, absent in linked list mode. -/
def checkedTransferSize : Option (Option Nat) :=
  match channel.sync with
  | .manual => some (some (if channel.blockSize = 0 then 0x10000 else channel.blockSize.toNat))
  | .request => do
    let size ← checkedMul channel.blockSize.toUInt32 channel.blockCount.toUInt32
    return some size.toNat
  | .linkedList => some none

/-- The size can be read, whatever it is. -/
theorem checkedBlockControl_eq : channel.checkedBlockControl = some channel.blockControl := by
  rw [checkedBlockControl, checkedSetBits_eq _ _ (by decide) (by decide), blockControl]

/-- The control register can be read in every mode. -/
theorem checkedControl_eq : channel.checkedControl = some channel.control := by
  rw [checkedControl, control]
  simp only [Option.bind_eq_bind]
  rw [checkedSetBit_eq _ (by decide), Option.bind_some,
    checkedSetBit_eq _ (by decide), Option.bind_some,
    checkedSetBit_eq _ (by decide), Option.bind_some,
    checkedSetBits_eq _ _ (by decide) (by decide), Option.bind_some,
    checkedSetBits_eq _ _ (by decide) (by decide), Option.bind_some,
    checkedSetBits_eq _ _ (by decide) (by decide), Option.bind_some,
    checkedSetBit_eq _ (by decide), Option.bind_some,
    checkedSetBit_eq _ (by decide), Option.bind_some,
    checkedSetBits_eq _ _ (by decide) (by decide)]

/-- The start address can be written with every value. -/
theorem checkedSetBase_eq (value : UInt32) :
    channel.checkedSetBase value = some (channel.setBase value) := by
  rw [checkedSetBase, checkedBits_eq _ (by decide) (by decide)]
  rfl

/-- The size can be written with every value. -/
theorem checkedSetBlockControl_eq (value : UInt32) :
    channel.checkedSetBlockControl value = some (channel.setBlockControl value) := by
  rw [checkedSetBlockControl, checkedBits_eq _ (by decide) (by decide),
    checkedBits_eq _ (by decide) (by decide)]
  rfl

/-- The control register can be written with every value. -/
theorem checkedSetControl_eq (port : Port) (value : UInt32) :
    channel.checkedSetControl port value = some (setControl? port channel value) := by
  rw [checkedSetControl, setControl?, syncNumber, checkedBits_eq _ (by decide) (by decide)]
  simp only [Option.bind_eq_bind, Option.bind_some]
  cases SyncMode.ofNumber? (bits (controlMask port value) 9 10) <;> rfl

/-- The size of the largest transfer fits into a word. -/
theorem checkedTransferSize_eq : channel.checkedTransferSize = some channel.transferSize? := by
  rw [checkedTransferSize, transferSize?]
  cases channel.sync with
  | request =>
    have hsize : channel.blockSize.toUInt32.toNat = channel.blockSize.toNat :=
      UInt16.toNat_toUInt32 _
    have hcount : channel.blockCount.toUInt32.toNat = channel.blockCount.toNat :=
      UInt16.toNat_toUInt32 _
    have hbound : channel.blockSize.toNat * channel.blockCount.toNat < 2 ^ 32 := by
      have hmul := Nat.mul_le_mul (Nat.le_pred_of_lt channel.blockSize.toNat_lt)
        (Nat.le_pred_of_lt channel.blockCount.toNat_lt)
      exact Nat.lt_of_le_of_lt hmul (by decide)
    have hproduct : (channel.blockSize.toUInt32 * channel.blockCount.toUInt32).toNat =
        channel.blockSize.toNat * channel.blockCount.toNat := by
      rw [UInt32.toNat_mul, hsize, hcount, Nat.mod_eq_of_lt hbound]
    simp only
    rw [checkedMul_eq (by rw [hsize, hcount]; exact hbound)]
    simp only [Option.bind_eq_bind, Option.bind_some, hproduct]
    rfl
  | _ => rfl

end Channel

namespace Interrupts

variable (interrupts : Interrupts)

/-- Read the register. -/
def checkedRead : Option UInt32 := do
  let value ← checkedSetBit interrupts.spare.toUInt32 15 interrupts.force
  let value ← checkedSetBits value 16 22 interrupts.enabled.toUInt32
  let value ← checkedSetBit value 23 interrupts.master
  let value ← checkedSetBits value 24 30 interrupts.flags.toUInt32
  checkedSetBit value 31 interrupts.line

/-- Write the register. -/
def checkedWrite (value : UInt32) : Option Interrupts := do
  let spare ← checkedBits value 0 5
  let force ← checkedBit value 15
  let enabled ← checkedBits value 16 22
  let master ← checkedBit value 23
  let acknowledged ← checkedBits value 24 30
  return ⟨spare.toUInt8, force, enabled.toUInt8, master,
    interrupts.flags &&& ~~~acknowledged.toUInt8⟩

/-- Report the end of a transfer on a port, if that is enabled. -/
def checkedComplete (port : Port) : Option Interrupts := do
  if ← checkedBit interrupts.enabled port.index.val then
    let flags ← checkedSetBit interrupts.flags port.index.val true
    return { interrupts with flags }
  else return interrupts

/-- The register can be read in every state. -/
theorem checkedRead_eq : interrupts.checkedRead = some interrupts.read := by
  rw [checkedRead, read]
  simp only [Option.bind_eq_bind]
  rw [checkedSetBit_eq _ (by decide), Option.bind_some,
    checkedSetBits_eq _ _ (by decide) (by decide), Option.bind_some,
    checkedSetBit_eq _ (by decide), Option.bind_some,
    checkedSetBits_eq _ _ (by decide) (by decide), Option.bind_some,
    checkedSetBit_eq _ (by decide)]

/-- The register can be written with every value. -/
theorem checkedWrite_eq (value : UInt32) :
    interrupts.checkedWrite value = some (interrupts.write value) := by
  rw [checkedWrite, checkedBits_eq _ (by decide) (by decide), checkedBit_eq _ (by decide),
    checkedBits_eq _ (by decide) (by decide), checkedBit_eq _ (by decide),
    checkedBits_eq _ (by decide) (by decide)]
  rfl

/-- Every port has a bit in a byte. -/
theorem checkedComplete_eq (port : Port) :
    interrupts.checkedComplete port = some (interrupts.complete port) := by
  have hwidth : port.index.val < MachineWord.width UInt8 :=
    Nat.lt_of_lt_of_le port.index.isLt (by decide)
  rw [checkedComplete, complete, checkedBit_eq _ hwidth, checkedSetBit_eq _ hwidth]
  simp only [Option.bind_eq_bind, Option.bind_some]
  split <;> rfl

end Interrupts

/-- The register at an offset. -/
def DmaRegister.checkedOfOffset (offset : UInt32) : Option (Option DmaRegister) := do
  let major ← checkedBits offset 4 6
  let minor ← checkedBits offset 0 3
  return match Port.ofNat? major.toNat, minor.toNat with
  | some port, 0 => some (base port)
  | some port, 4 => some (blockControl port)
  | some port, 8 => some (channelControl port)
  | none, 0 => some control
  | none, 4 => some interrupt
  | _, _ => none

namespace Dma

variable (dma : Dma)

/-- The channel of a port. -/
def checkedChannel (port : Port) : Option Channel := dma.channels[port.index.val]?

/-- Replace the channel of a port. -/
def checkedSetChannel (port : Port) (channel : Channel) : Option Dma := do
  let channels ← checkedSet dma.channels port.index.val channel
  return { dma with channels }

/-- The value of a register. -/
def checkedRead : DmaRegister → Option UInt32
  | .base port => do
    let channel ← dma.checkedChannel port
    return channel.base
  | .blockControl port => do
    let channel ← dma.checkedChannel port
    channel.checkedBlockControl
  | .channelControl port => do
    let channel ← dma.checkedChannel port
    channel.checkedControl
  | .control => some dma.control
  | .interrupt => dma.interrupts.checkedRead

/-- Write a register. Only a control write can be refused. -/
def checkedWrite (register : DmaRegister) (value : UInt32) : Option (Except DmaFault Dma) :=
  match register with
  | .base port => do
    let channel ← dma.checkedChannel port
    let channel ← channel.checkedSetBase value
    let dma ← dma.checkedSetChannel port channel
    return .ok dma
  | .blockControl port => do
    let channel ← dma.checkedChannel port
    let channel ← channel.checkedSetBlockControl value
    let dma ← dma.checkedSetChannel port channel
    return .ok dma
  | .channelControl port => do
    let channel ← dma.checkedChannel port
    match ← channel.checkedSetControl port value with
    | some channel =>
      let dma ← dma.checkedSetChannel port channel
      return .ok dma
    | none =>
      let number ← checkedBits value 9 10
      return .error (.invalidSyncMode number)
  | .control => some (.ok { dma with control := value })
  | .interrupt => do
    let interrupts ← dma.interrupts.checkedWrite value
    return .ok { dma with interrupts }

/-- Load the register at an offset. -/
def checkedLoad (offset : UInt32) : Option (Except DmaFault UInt32) := do
  match ← DmaRegister.checkedOfOffset offset with
  | some register =>
    let value ← dma.checkedRead register
    return .ok value
  | none => return .error (.invalidRegister offset)

/-- Store to the register at an offset, and report the port whose transfer is
to run. -/
def checkedStore (offset value : UInt32) : Option (Except DmaFault (Dma × Option Port)) := do
  match ← DmaRegister.checkedOfOffset offset with
  | some register =>
    match ← dma.checkedWrite register value with
    | .ok dma => return .ok (dma, dma.ready? register)
    | .error fault => return .error fault
  | none => return .error (.invalidRegister offset)

/-- The controller after the transfer on a port has ended. -/
def checkedComplete (port : Port) : Option Dma := do
  let channel ← dma.checkedChannel port
  let finished ← dma.checkedSetChannel port channel.finish
  let interrupts ← dma.interrupts.checkedComplete port
  return { finished with interrupts }

/-- Every port has a channel. -/
theorem checkedChannel_eq (port : Port) : dma.checkedChannel port = some (dma.channel port) :=
  Vector.getElem?_eq_getElem port.index.isLt

/-- Every channel can be replaced. -/
theorem checkedSetChannel_eq (port : Port) (channel : Channel) :
    dma.checkedSetChannel port channel = some (dma.setChannel port channel) := by
  rw [checkedSetChannel, checkedSet, dif_pos port.index.isLt]
  rfl

/-- Every register can be read. -/
theorem checkedRead_eq (register : DmaRegister) :
    dma.checkedRead register = some (dma.read register) := by
  cases register with
  | base port | blockControl port | channelControl port =>
    simp only [checkedRead, read, checkedChannel_eq, Channel.checkedBlockControl_eq,
      Channel.checkedControl_eq, Option.bind_eq_bind, Option.bind_some, Option.pure_def]
  | control => rfl
  | interrupt => exact dma.interrupts.checkedRead_eq

/-- Every register can be written. -/
theorem checkedWrite_eq (register : DmaRegister) (value : UInt32) :
    dma.checkedWrite register value = some (dma.write register value) := by
  cases register with
  | base port | blockControl port =>
    simp only [checkedWrite, checkedChannel_eq, Channel.checkedSetBase_eq,
      Channel.checkedSetBlockControl_eq, checkedSetChannel_eq, Option.bind_eq_bind,
      Option.bind_some]
    rfl
  | channelControl port =>
    simp only [checkedWrite, write, checkedChannel_eq, Channel.checkedSetControl_eq,
      Option.bind_eq_bind, Option.bind_some]
    cases Channel.setControl? port (dma.channel port) value with
    | some channel =>
      simp only [checkedSetChannel_eq, Option.bind_some]
      rfl
    | none =>
      simp only
      rw [checkedBits_eq _ (by decide) (by decide)]
      rfl
  | control => rfl
  | interrupt =>
    simp only [checkedWrite, Interrupts.checkedWrite_eq, Option.bind_eq_bind, Option.bind_some]
    rfl

/-- Every offset can be loaded. -/
theorem checkedLoad_eq (offset : UInt32) : dma.checkedLoad offset = some (dma.load offset) := by
  have hregister : DmaRegister.checkedOfOffset offset = some (DmaRegister.ofOffset? offset) := rfl
  rw [checkedLoad, load, hregister]
  cases DmaRegister.ofOffset? offset with
  | none => rfl
  | some register =>
    simp only [Option.bind_eq_bind, Option.bind_some, checkedRead_eq]
    rfl

/-- Every offset can be stored. -/
theorem checkedStore_eq (offset value : UInt32) :
    dma.checkedStore offset value = some (dma.store offset value) := by
  have hregister : DmaRegister.checkedOfOffset offset = some (DmaRegister.ofOffset? offset) := rfl
  rw [checkedStore, store, hregister]
  cases DmaRegister.ofOffset? offset with
  | none => rfl
  | some register =>
    simp only [Option.bind_eq_bind, Option.bind_some, checkedWrite_eq]
    cases dma.write register value <;> rfl

/-- Every transfer can end. -/
theorem checkedComplete_eq (port : Port) : dma.checkedComplete port = some (dma.complete port) := by
  simp only [checkedComplete, checkedChannel_eq, checkedSetChannel_eq,
    Interrupts.checkedComplete_eq, Option.bind_eq_bind, Option.bind_some]
  rfl

end Dma

end Playstation
