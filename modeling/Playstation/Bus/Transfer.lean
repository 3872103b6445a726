import Playstation.Bus.Basic

/-!
# DMA transfers

A transfer runs to its end before the store that started it returns. Blocks go
from main memory to the drawing port, or clear the ordering table, whose
entries point at each other from the highest address down. Linked lists are
chains of nodes in main memory, each with a header word and some command words
for the drawing port. Addresses within main memory wrap around at its end. The
words of a block or list are visited by folds, so that what receives them can
be chosen.
-/

namespace Playstation

/-- The word of main memory which an address falls on. -/
def wordOffset (address : UInt32) : UInt32 := address &&& 0x1ffffc

/-- The word of main memory at an address. -/
def Ram.word (ram : Ram) (address : UInt32) : UInt32 := ram.load .word (wordOffset address).toNat

/-- Pass `count` words of main memory to a receiver, the first from `address`
and each next one `step` further. -/
@[specialize] def foldBlock {σ : Type} (receive : σ → UInt32 → σ) (ram : Ram) (step : UInt32) :
    (count : Nat) → (address : UInt32) → σ → σ
  | 0, _, state => state
  | count + 1, address, state =>
    foldBlock receive ram step count (address + step) (receive state (ram.word address))

/-- The entry of the ordering table at an address. All but the last of them
point one word down. -/
def tableEntry (isLast : Bool) (address : UInt32) : UInt32 :=
  if isLast then 0x00ffffff else (address - 4) &&& 0x1fffff

/-- Write `count` entries of the ordering table, the first at `address` and
each next one `step` further. -/
def clearTable (step : UInt32) : (count : Nat) → (address : UInt32) → Ram → Ram
  | 0, _, ram => ram
  | count + 1, address, ram =>
    clearTable step count (address + step)
      (ram.store .word (wordOffset address).toNat (tableEntry (count == 0) address))

/-- Number of command words in the node of a header. -/
def nodeLength (header : UInt32) : Nat := (bits header 24 31).toNat

/-- Whether the node of a header is the last of its list. The end marker is
usually larger, but one bit of it decides. -/
def isLastNode (header : UInt32) : Bool := bit header 23

/-- Pass the `count` words which follow `address` in main memory to a
receiver. -/
@[specialize] def foldNode {σ : Type} (receive : σ → UInt32 → σ) (ram : Ram) :
    (count : Nat) → (address : UInt32) → σ → σ
  | 0, _, state => state
  | count + 1, address, state =>
    foldNode receive ram count (wordOffset (address + 4))
      (receive state (ram.word (wordOffset (address + 4))))

/-- Pass the nodes of a list to a receiver, at most `limit` of them, and say
whether the last one was reached. -/
@[specialize] def foldList {σ : Type} (receive : σ → UInt32 → σ) (ram : Ram) :
    (limit : Nat) → (address : UInt32) → σ → σ × Bool
  | 0, _, state => (state, false)
  | limit + 1, address, state =>
    let header := ram.word address
    let state := foldNode receive ram (nodeLength header) address state
    if isLastNode header then (state, true)
    else foldList receive ram limit (wordOffset header) state

/-- A list which ends visits no node twice, so it has no more nodes than main
memory has words. -/
def maxListNodes : Nat := ramSize / 4

/-- Send a block of main memory to the drawing port. -/
def sendBlock (ram : Ram) (step : UInt32) (count : Nat) (address : UInt32) (gpu : Gpu) : Gpu :=
  foldBlock Gpu.gp0 ram step count address gpu

/-- Send a list in main memory to the drawing port, and say whether it ended. -/
def sendList (ram : Ram) (address : UInt32) (gpu : Gpu) : Gpu × Bool :=
  foldList Gpu.gp0 ram maxListNodes (wordOffset address) gpu

namespace Bus

/-- Run a block transfer of `size` words. -/
def transferBlock (bus : Bus) (port : Port) (size : Nat) : Bus × Option DmaFault :=
  let channel := bus.dma.channel port
  match port, channel.direction with
  | .gpu, .fromRam =>
    let ⟨bios, ram, dma, gpu, spu, memoryControl, ramSize, cacheControl⟩ := bus
    let gpu := sendBlock ram channel.step.amount size channel.base gpu
    (⟨bios, ram, dma, gpu, spu, memoryControl, ramSize, cacheControl⟩, none)
  | .otc, .toRam =>
    let ⟨bios, ram, dma, gpu, spu, memoryControl, ramSize, cacheControl⟩ := bus
    let ram := clearTable channel.step.amount size channel.base ram
    (⟨bios, ram, dma, gpu, spu, memoryControl, ramSize, cacheControl⟩, none)
  | port, direction => (bus, some (.unsupportedTransfer port direction))

/-- Run a linked list transfer. -/
def transferList (bus : Bus) (port : Port) : Bus × Option DmaFault :=
  let channel := bus.dma.channel port
  match port, channel.direction with
  | .gpu, .fromRam =>
    let ⟨bios, ram, dma, gpu, spu, memoryControl, ramSize, cacheControl⟩ := bus
    match sendList ram channel.base gpu with
    | (gpu, ended) =>
      (⟨bios, ram, dma, gpu, spu, memoryControl, ramSize, cacheControl⟩,
        if ended then none else some (.malformedLinkedList channel.base))
  | port, direction => (bus, some (.invalidLinkedList port direction))

/-- Run the transfer of a channel that is ready. A transfer that fails leaves
the channel ready. -/
def transfer (bus : Bus) (port : Port) : Bus × Option DmaFault :=
  let outcome :=
    match (bus.dma.channel port).transferSize? with
    | some size => bus.transferBlock port size
    | none => bus.transferList port
  match outcome with
  | (bus, none) => ({ bus with dma := bus.dma.complete port }, none)
  | (bus, some fault) => (bus, some fault)

end Bus

end Playstation
