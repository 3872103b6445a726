import Playstation.Proofs.Checked.Dma
import Playstation.Proofs.Dma.Transfer

/-!
# DMA transfers, checked

Block transfers and linked lists with every access to main memory, every word
sent to the drawing port and the cursor of a list checked. The words of a
node are reached by adding to an address inside main memory, which is so small
that the sum always fits. Whatever main memory contains, the graphics
processor stays in a valid phase.
-/

namespace Playstation

/-- Send a block of main memory to the drawing port. -/
def checkedSendBlock (ram : Ram) (step : UInt32) :
    (count : Nat) → (address : UInt32) → Gpu → Option Gpu
  | 0, _, gpu => some gpu
  | count + 1, address, gpu => do
    let word ← ram.checkedLoad .word (wordOffset address).toNat
    let gpu ← gpu.checkedGp0 word
    checkedSendBlock ram step count (address + step) gpu

/-- Write `count` entries of the ordering table. -/
def checkedClearTable (step : UInt32) : (count : Nat) → (address : UInt32) → Ram → Option Ram
  | 0, _, ram => some ram
  | count + 1, address, ram => do
    let entry := tableEntry (count == 0) address
    let ram ← ram.checkedStore .word (wordOffset address).toNat entry
    checkedClearTable step count (address + step) ram

/-- Send the `count` words which follow `address` to the drawing port. -/
def checkedSendNode (ram : Ram) : (count : Nat) → (address : UInt32) → Gpu → Option Gpu
  | 0, _, gpu => some gpu
  | count + 1, address, gpu => do
    let next ← checkedAdd address 4
    let word ← ram.checkedLoad .word (wordOffset next).toNat
    let gpu ← gpu.checkedGp0 word
    checkedSendNode ram count (wordOffset next) gpu

/-- Send at most `limit` nodes of a list to the drawing port, and say whether
the last one was reached. -/
def checkedSendList (ram : Ram) :
    (limit : Nat) → (address : UInt32) → Gpu → Option (Gpu × Bool)
  | 0, _, gpu => some (gpu, false)
  | limit + 1, address, gpu => do
    let header ← ram.checkedLoad .word address.toNat
    let length ← checkedBits header 24 31
    let gpu ← checkedSendNode ram length.toNat address gpu
    if ← checkedBit header 23 then return (gpu, true)
    else checkedSendList ram limit (wordOffset header) gpu

namespace Bus

variable (bus : Bus)

/-- Run a block transfer of `size` words. -/
def checkedTransferBlock (port : Port) (size : Nat) : Option (Bus × Option DmaFault) := do
  let channel ← bus.dma.checkedChannel port
  match port, channel.direction with
  | .gpu, .fromRam =>
    let gpu ← checkedSendBlock bus.ram channel.step.amount size channel.base bus.gpu
    return ({ bus with gpu }, none)
  | .otc, .toRam =>
    let ram ← checkedClearTable channel.step.amount size channel.base bus.ram
    return ({ bus with ram }, none)
  | port, direction => return (bus, some (.unsupportedTransfer port direction))

/-- Run a linked list transfer. -/
def checkedTransferList (port : Port) : Option (Bus × Option DmaFault) := do
  let channel ← bus.dma.checkedChannel port
  match port, channel.direction with
  | .gpu, .fromRam =>
    let (gpu, ended) ←
      checkedSendList bus.ram maxListNodes (wordOffset channel.base) bus.gpu
    return ({ bus with gpu }, if ended then none else some (.malformedLinkedList channel.base))
  | port, direction => return (bus, some (.invalidLinkedList port direction))

/-- Run the transfer of a channel that is ready. -/
def checkedTransfer (port : Port) : Option (Bus × Option DmaFault) := do
  let channel ← bus.dma.checkedChannel port
  let outcome ←
    match ← channel.checkedTransferSize with
    | some size => bus.checkedTransferBlock port size
    | none => bus.checkedTransferList port
  match outcome with
  | (bus, none) =>
    let dma ← bus.dma.checkedComplete port
    return ({ bus with dma }, none)
  | (bus, some fault) => return (bus, some fault)

end Bus

section Words

variable (ram : Ram) (address : UInt32)

/-- A word of main memory ends inside of it. -/
theorem wordOffset_fits : (wordOffset address).toNat + Width.word.bytes ≤ ramSize := by
  rw [toNat_wordOffset]
  change _ + 4 ≤ 0x200000
  omega

/-- Every word of main memory can be loaded. -/
theorem checkedLoad_wordOffset :
    ram.checkedLoad .word (wordOffset address).toNat = some (ram.word address) :=
  Bytes.checkedLoad_eq (wordOffset_fits address)

/-- The address after a word of main memory fits. -/
theorem checkedAdd_wordOffset :
    checkedAdd (wordOffset address) 4 = some (wordOffset address + 4) := by
  have hfits : (wordOffset address).toNat + 4 ≤ 0x200000 := wordOffset_fits address
  refine checkedAdd_eq ?_
  change (wordOffset address).toNat + 4 < 2 ^ 32
  omega

end Words

section Loops

variable (ram : Ram) {gpu : Gpu}

/-- A block of every size is sent, and leaves the phase valid. -/
theorem checkedSendBlock_eq (step : UInt32) (count : Nat) (address : UInt32)
    (h : gpu.phase.Valid) :
    checkedSendBlock ram step count address gpu = some (sendBlock ram step count address gpu) ∧
      (sendBlock ram step count address gpu).phase.Valid := by
  induction count generalizing address gpu with
  | zero => exact ⟨rfl, h⟩
  | succ count ih =>
    rw [checkedSendBlock, checkedLoad_wordOffset]
    simp only [Option.bind_eq_bind, Option.bind_some, Gpu.checkedGp0_eq h]
    exact ih _ (Gpu.gp0_valid h _)

/-- An ordering table of every size is written. -/
theorem checkedClearTable_eq (step : UInt32) (count : Nat) (address : UInt32) :
    checkedClearTable step count address ram = some (clearTable step count address ram) := by
  induction count generalizing address ram with
  | zero => rfl
  | succ count ih =>
    rw [checkedClearTable]
    simp only [Option.bind_eq_bind]
    rw [Bytes.checkedStore_eq (wordOffset_fits address), Option.bind_some, ih, clearTable]

/-- A node of every length is sent, and leaves the phase valid. -/
theorem checkedSendNode_eq (count : Nat) (address : UInt32) (h : gpu.phase.Valid) :
    checkedSendNode ram count (wordOffset address) gpu =
        some (foldNode Gpu.gp0 ram count (wordOffset address) gpu) ∧
      (foldNode Gpu.gp0 ram count (wordOffset address) gpu).phase.Valid := by
  induction count generalizing address gpu with
  | zero => exact ⟨rfl, h⟩
  | succ count ih =>
    rw [checkedSendNode, checkedAdd_wordOffset]
    simp only [Option.bind_eq_bind, Option.bind_some, checkedLoad_wordOffset,
      Gpu.checkedGp0_eq h, foldNode, Ram.word_wordOffset]
    exact ih _ (Gpu.gp0_valid h _)

/-- A list is sent as far as the limit goes, and leaves the phase valid. -/
theorem checkedSendList_eq (limit : Nat) (address : UInt32) (h : gpu.phase.Valid) :
    checkedSendList ram limit (wordOffset address) gpu =
        some (foldList Gpu.gp0 ram limit (wordOffset address) gpu) ∧
      (foldList Gpu.gp0 ram limit (wordOffset address) gpu).1.phase.Valid := by
  induction limit generalizing address gpu with
  | zero => exact ⟨rfl, h⟩
  | succ limit ih =>
    obtain ⟨hnode, hvalid⟩ :=
      checkedSendNode_eq ram (nodeLength (ram.word address)) address h
    rw [checkedSendList, checkedLoad_wordOffset]
    simp only [Option.bind_eq_bind, Option.bind_some]
    rw [checkedBits_eq _ (by decide) (by decide), checkedBit_eq _ (by decide), Option.bind_some]
    simp only [Option.bind_some, foldList, Ram.word_wordOffset]
    rw [nodeLength] at hnode hvalid
    rw [nodeLength, hnode, Option.bind_some]
    by_cases hlast : isLastNode (ram.word address)
    · rw [if_pos hlast]
      exact ⟨if_pos hlast, hvalid⟩
    · rw [if_neg hlast]
      exact ⟨(if_neg hlast).trans (ih _ hvalid).1, (ih _ hvalid).2⟩

end Loops

namespace Bus

variable {bus : Bus}

/-- A block transfer of every size runs, and leaves the phase valid. -/
theorem checkedTransferBlock_eq (h : bus.gpu.phase.Valid) (port : Port) (size : Nat) :
    bus.checkedTransferBlock port size = some (bus.transferBlock port size) ∧
      (bus.transferBlock port size).1.gpu.phase.Valid := by
  unfold checkedTransferBlock transferBlock
  simp only [Dma.checkedChannel_eq, Option.bind_eq_bind, Option.bind_some]
  cases port with
  | gpu =>
    obtain ⟨hsend, hvalid⟩ := checkedSendBlock_eq bus.ram
      (bus.dma.channel .gpu).step.amount size (bus.dma.channel .gpu).base h
    cases (bus.dma.channel .gpu).direction with
    | fromRam =>
      simp only [hsend, Option.bind_some]
      exact ⟨rfl, hvalid⟩
    | toRam => exact ⟨rfl, h⟩
  | otc =>
    cases (bus.dma.channel .otc).direction with
    | fromRam => exact ⟨rfl, h⟩
    | toRam =>
      simp only [checkedClearTable_eq, Option.bind_some]
      exact ⟨rfl, h⟩
  | _ => exact ⟨rfl, h⟩

/-- A list transfer runs, whether the list ends or not, and leaves the phase
valid. -/
theorem checkedTransferList_eq (h : bus.gpu.phase.Valid) (port : Port) :
    bus.checkedTransferList port = some (bus.transferList port) ∧
      (bus.transferList port).1.gpu.phase.Valid := by
  rw [checkedTransferList, Dma.checkedChannel_eq, Option.bind_eq_bind, Option.bind_some]
  cases port with
  | gpu =>
    have hlist := checkedSendList_eq bus.ram maxListNodes (bus.dma.channel .gpu).base h
    -- Nothing may count the limit down, so the outcome becomes a variable.
    obtain ⟨outcome, hchecked, hsend, hvalid⟩ : ∃ outcome,
        checkedSendList bus.ram maxListNodes (wordOffset (bus.dma.channel .gpu).base) bus.gpu =
          some outcome ∧
        sendList bus.ram (bus.dma.channel .gpu).base bus.gpu = outcome ∧
        outcome.1.phase.Valid := ⟨_, hlist.1, rfl, hlist.2⟩
    cases hdirection : (bus.dma.channel .gpu).direction with
    | fromRam =>
      rw [transferList_gpu hdirection, hsend]
      simp only [hchecked]
      exact ⟨rfl, hvalid⟩
    | toRam =>
      have hrefused : bus.transferList .gpu = (bus, some (.invalidLinkedList .gpu .toRam)) := by
        unfold transferList
        simp only [hdirection]
      rw [hrefused]
      exact ⟨rfl, h⟩
  | _ => exact ⟨rfl, h⟩

/-- The transfer of every channel runs, and leaves the phase valid. -/
theorem checkedTransfer_eq (h : bus.gpu.phase.Valid) (port : Port) :
    bus.checkedTransfer port = some (bus.transfer port) ∧
      (bus.transfer port).1.gpu.phase.Valid := by
  rw [checkedTransfer, transfer, Dma.checkedChannel_eq]
  simp only [Option.bind_eq_bind, Option.bind_some, Channel.checkedTransferSize_eq]
  cases (bus.dma.channel port).transferSize? with
  | some size =>
    obtain ⟨hrun, hvalid⟩ := checkedTransferBlock_eq h port size
    simp only [hrun, Option.bind_some, Dma.checkedComplete_eq]
    generalize bus.transferBlock port size = outcome at hvalid
    rcases outcome with ⟨after, _ | fault⟩ <;> exact ⟨rfl, hvalid⟩
  | none =>
    obtain ⟨hrun, hvalid⟩ := checkedTransferList_eq h port
    simp only [hrun, Option.bind_some, Dma.checkedComplete_eq]
    generalize bus.transferList port = outcome at hvalid
    rcases outcome with ⟨after, _ | fault⟩ <;> exact ⟨rfl, hvalid⟩

end Bus

end Playstation
