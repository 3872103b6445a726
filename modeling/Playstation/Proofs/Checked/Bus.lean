import Playstation.Bus.Access
import Playstation.Proofs.Checked.Address
import Playstation.Proofs.Checked.Device
import Playstation.Proofs.Checked.Transfer

/-!
# The bus, checked

Every load and store with the choice of the region, the access to it and what
devices do about it checked. What makes them succeed is that accesses are
aligned before a region is chosen, that the windows of memories and registers
begin and end at multiples of four, and that the graphics processor is in a
valid phase, which every load and store preserves.
-/

namespace Playstation

namespace Bus

variable (bus : Bus)

/-- Load from a region at a physical address. The graphics processor notices if
the load is one to `advance` it. -/
def checkedReadRegion (w : Width) (region : Region) (address offset : UInt32) (advance : Bool) :
    Option (Bus × Except BusFault UInt32) :=
  match region with
  | .bios => do
    let value ← bus.bios.image.checkedLoad w offset.toNat
    return (bus, .ok value)
  | .ram => do
    let value ← bus.ram.checkedLoad w offset.toNat
    return (bus, .ok value)
  | .interruptControl | .timers | .cdrom => some (bus, .ok 0)
  | .dma => do
    match ← bus.dma.checkedLoad (offset &&& 0xfffffffc) with
    | .ok value =>
      let value ← checkedNarrow w value offset
      return (bus, .ok value)
    | .error fault => return (bus, .error (.dma fault))
  | .gpu => do
    if offset < 4 then
      let gpu ← if advance then bus.gpu.checkedRead else some bus.gpu
      let value ← checkedNarrow w gpu.latch offset
      return ({ bus with gpu }, .ok value)
    else
      let status ← bus.gpu.checkedStatus
      let value ← checkedNarrow w status offset
      return (bus, .ok value)
  | .expansion1 | .expansion2 => do
    let value ← w.checkedAllOnes
    return (bus, .ok value)
  | .spu => do
    let value ← bus.spu.checkedLoad w address
    return (bus, .ok value)
  | .memoryControl => do
    let register ← bus.memoryControl.checkedLoad offset
    let value ← checkedNarrow w register offset
    return (bus, .ok value)
  | .cacheControl => some (bus, .ok bus.cacheControl)
  | .ramSize => some (bus, .ok bus.ramSize)

/-- Load a value, to `advance` the graphics processor or not. -/
def checkedRead (w : Width) (address : UInt32) (advance : Bool) :
    Option (Bus × Except BusFault UInt32) := do
  if w.aligns address then
    let address ← checkedPhysical address
    match ← Region.checkedFind address with
    | some (region, offset) => bus.checkedReadRegion w region address offset advance
    | none => return (bus, .error (.unmapped address))
  else return (bus, .error (.unaligned address w))

/-- The value that a store to a DMA register writes. -/
def checkedDmaStoreValue (w : Width) (offset value : UInt32) :
    Option (Except DmaFault UInt32) := do
  let register := offset &&& 0xfffffffc
  match w with
  | .word => return .ok value
  | w =>
    match ← bus.dma.checkedLoad register with
    | .ok old =>
      let kept := if register = 0x74 then old &&& 0x00ffffff else old
      let merged ← checkedMerge w kept value offset
      return .ok merged
    | .error fault => return .error fault

/-- Store to a DMA register, and run the transfer it starts. -/
def checkedStoreDma (w : Width) (offset value : UInt32) : Option (Bus × Option DmaFault) := do
  match ← bus.checkedDmaStoreValue w offset value with
  | .error fault => return (bus, some fault)
  | .ok value =>
    match ← bus.dma.checkedStore (offset &&& 0xfffffffc) value with
    | .error fault => return (bus, some fault)
    | .ok (dma, none) => return ({ bus with dma }, none)
    | .ok (dma, some port) => checkedTransfer { bus with dma } port

/-- Store to a region at a physical address. -/
def checkedStoreRegion (w : Width) (region : Region) (address offset value : UInt32) :
    Option (Bus × Option BusFault) :=
  match region with
  | .bios | .interruptControl | .expansion1 | .expansion2 | .timers | .cdrom => some (bus, none)
  | .ram => do
    let ram ← bus.ram.checkedStore w offset.toNat value
    return ({ bus with ram }, none)
  | .dma => do
    match ← bus.checkedStoreDma w offset value with
    | (bus, some fault) => return (bus, some (.dma fault))
    | (bus, none) => return (bus, none)
  | .gpu => do
    let word ← checkedWiden value offset
    let gpu ← if offset < 4 then bus.gpu.checkedGp0 word else bus.gpu.checkedGp1 word
    return ({ bus with gpu }, none)
  | .spu => do
    let spu ← bus.spu.checkedStore w address value
    return ({ bus with spu }, none)
  | .memoryControl => do
    let old ← bus.memoryControl.checkedLoad offset
    let merged ← checkedMerge w old value offset
    match ← bus.memoryControl.checkedStore offset merged with
    | .ok memoryControl => return ({ bus with memoryControl }, none)
    | .error fault => return (bus, some fault)
  | .cacheControl => some ({ bus with cacheControl := value }, none)
  | .ramSize => some ({ bus with ramSize := value }, none)

/-- Store a value. -/
def checkedStore (w : Width) (address value : UInt32) : Option (Bus × Option BusFault) := do
  if w.aligns address then
    let address ← checkedPhysical address
    match ← Region.checkedFind address with
    | some (region, offset) => bus.checkedStoreRegion w region address offset value
    | none => return (bus, some (.unmapped address))
  else return (bus, some (.unaligned address w))

variable {bus : Bus} {w : Width} {region : Region} {address : UInt32}

/-- The bus after a load from a region, which only the graphics processor
notices, at its read port and if it is to advance. -/
def noticed (bus : Bus) (region : Region) (address : UInt32) (advance : Bool) : Bus :=
  if region = .gpu ∧ Region.gpu.offsetOf address < 4 ∧ advance then
    { bus with gpu := bus.gpu.read }
  else bus

/-- A load from every region has a result. -/
theorem checkedReadRegion_eq (h : bus.gpu.phase.Valid)
    (hcontains : region.range.contains address = true) (haligns : w.aligns address = true)
    (advance : Bool) :
    bus.checkedReadRegion w region address (region.offsetOf address) advance =
      some (bus.noticed region address advance,
        (bus.noticed region address advance).peekRegion w region address) := by
  cases region with
  | bios =>
    have hfits : (Region.bios.offsetOf address).toNat + w.bytes ≤ biosSize :=
      Region.offset_fits hcontains haligns rfl rfl
    rw [checkedReadRegion, Bytes.checkedLoad_eq hfits]
    rfl
  | ram =>
    have hfits : (Region.ram.offsetOf address).toNat + w.bytes ≤ Playstation.ramSize :=
      Region.offset_fits hcontains haligns rfl rfl
    rw [checkedReadRegion, Bytes.checkedLoad_eq hfits]
    rfl
  | interruptControl | timers | cdrom | cacheControl | ramSize => rfl
  | dma =>
    have hquiet : bus.noticed .dma address advance = bus := rfl
    rw [checkedReadRegion, Dma.checkedLoad_eq, hquiet, peekRegion]
    simp only [Option.bind_eq_bind, Option.bind_some, checkedNarrow_eq]
    cases bus.dma.load (Region.dma.offsetOf address &&& 0xfffffffc) <;> rfl
  | gpu =>
    rw [checkedReadRegion, peekRegion]
    by_cases hread : Region.gpu.offsetOf address < 4
    · rw [if_pos hread, if_pos hread]
      cases advance with
      | true =>
        have hnoticed : bus.noticed .gpu address true = { bus with gpu := bus.gpu.read } :=
          if_pos ⟨rfl, hread, rfl⟩
        simp only [hnoticed, if_true, Gpu.checkedRead_eq h, Option.bind_eq_bind, Option.bind_some,
          checkedNarrow_eq]
        rfl
      | false =>
        have hquiet : bus.noticed .gpu address false = bus :=
          if_neg fun hall => Bool.false_ne_true hall.2.2
        simp only [hquiet, Bool.false_eq_true, if_false, Option.bind_eq_bind, Option.bind_some,
          checkedNarrow_eq]
        rfl
    · have hquiet : bus.noticed .gpu address advance = bus := if_neg fun hall => hread hall.2.1
      rw [if_neg hread, if_neg hread, hquiet, Gpu.checkedStatus_eq]
      simp only [Option.bind_eq_bind, Option.bind_some, checkedNarrow_eq]
      rfl
  | expansion1 | expansion2 =>
    rw [checkedReadRegion, Width.checkedAllOnes_eq]
    rfl
  | spu =>
    rw [checkedReadRegion, Spu.checkedLoad_eq]
    rfl
  | memoryControl =>
    have hoffset : (Region.memoryControl.offsetOf address).toNat < 36 :=
      (Region.toNat_offsetOf hcontains).2.2
    rw [checkedReadRegion, MemoryControl.checkedLoad_eq _ hoffset]
    simp only [Option.bind_eq_bind, Option.bind_some, checkedNarrow_eq]
    rfl

/-- The devices notice an aligned load as one from its region. -/
theorem notice_eq (haligns : w.aligns address = true)
    (hfind : Region.find? (physical address) = some region) :
    bus.notice w address = bus.noticed region (physical address) true := by
  rw [notice, readsImage, noticed, haligns, hfind]
  cases region <;> simp

/-- An access that reaches no region is not noticed. -/
theorem notice_of_lost (h : w.aligns address = false ∨ Region.find? (physical address) = none) :
    bus.notice w address = bus := by
  rw [notice, readsImage]
  rcases h with haligns | hfind
  · rw [haligns]
    rfl
  · rw [hfind]
    cases w.aligns address <;> rfl

/-- Reading comes to the region of an aligned address. -/
theorem checkedRead_of_find (h : bus.gpu.phase.Valid) (haligns : w.aligns address = true)
    (hfind : Region.find? (physical address) = some region) (advance : Bool) :
    bus.checkedRead w address advance =
      some (bus.noticed region (physical address) advance,
        (bus.noticed region (physical address) advance).peekRegion w region
          (physical address)) := by
  have hphysical : w.aligns (physical address) = true := by
    rw [Width.aligns_physical]
    exact haligns
  rw [checkedRead, if_pos haligns, checkedPhysical_eq]
  simp only [Option.bind_eq_bind, Option.bind_some]
  rw [Region.checkedFind_eq, hfind]
  exact checkedReadRegion_eq h (Region.contains_of_find? hfind) hphysical advance

/-- An access that reaches no region is refused. -/
theorem checkedRead_of_lost (h : w.aligns address = false ∨ Region.find? (physical address) = none)
    (advance : Bool) :
    bus.checkedRead w address advance = some (bus, bus.peek w address) := by
  cases haligns : w.aligns address with
  | false =>
    rw [checkedRead, peek, haligns]
    rfl
  | true =>
    have hfind : Region.find? (physical address) = none :=
      h.resolve_left (haligns ▸ Bool.true_eq_false.mp)
    rw [checkedRead, peek, if_pos haligns, if_pos haligns, hfind, checkedPhysical_eq]
    simp only [Option.bind_eq_bind, Option.bind_some]
    rw [Region.checkedFind_eq, hfind]
    rfl

/-- An access reaches a region or none. -/
theorem finds_or_lost (w : Width) (address : UInt32) :
    (w.aligns address = true ∧ ∃ region, Region.find? (physical address) = some region) ∨
      (w.aligns address = false ∨ Region.find? (physical address) = none) := by
  cases w.aligns address with
  | false => exact .inr (.inl rfl)
  | true =>
    cases Region.find? (physical address) with
    | none => exact .inr (.inr rfl)
    | some region => exact .inl ⟨rfl, region, rfl⟩

/-- Every load has a result. -/
theorem checkedLoad_eq (h : bus.gpu.phase.Valid) (w : Width) (address : UInt32) :
    bus.checkedRead w address true = some (bus.load w address) := by
  rcases finds_or_lost w address with ⟨haligns, region, hfind⟩ | hlost
  · rw [checkedRead_of_find h haligns hfind, load, notice_eq haligns hfind, peek,
      if_pos haligns, hfind]
  · rw [checkedRead_of_lost hlost, load, notice_of_lost hlost]

/-- Every peek has a result, and changes nothing. -/
theorem checkedPeek_eq (h : bus.gpu.phase.Valid) (w : Width) (address : UInt32) :
    bus.checkedRead w address false = some (bus, bus.peek w address) := by
  rcases finds_or_lost w address with ⟨haligns, region, hfind⟩ | hlost
  · have hquiet : bus.noticed region (physical address) false = bus :=
      if_neg fun hall => Bool.false_ne_true hall.2.2
    rw [checkedRead_of_find h haligns hfind, hquiet, peek, if_pos haligns, hfind]
  · exact checkedRead_of_lost hlost false

/-- A load leaves the phase valid. -/
theorem load_valid (h : bus.gpu.phase.Valid) (w : Width) (address : UInt32) :
    (bus.load w address).1.gpu.phase.Valid := by
  rw [load, notice]
  split
  · exact Gpu.read_valid h
  · exact h

/-- The value for a DMA register can be made from every stored value. -/
theorem checkedDmaStoreValue_eq (bus : Bus) (w : Width) (offset value : UInt32) :
    bus.checkedDmaStoreValue w offset value = some (bus.dmaStoreValue w offset value) := by
  cases w with
  | word => rfl
  | byte | half =>
    simp only [checkedDmaStoreValue, dmaStoreValue, Dma.checkedLoad_eq, checkedMerge_eq,
      Option.bind_eq_bind, Option.bind_some]
    cases bus.dma.load (offset &&& 0xfffffffc) <;> rfl

/-- Every store to a DMA register has a result, and leaves the phase valid. -/
theorem checkedStoreDma_eq (h : bus.gpu.phase.Valid) (w : Width) (offset value : UInt32) :
    bus.checkedStoreDma w offset value = some (bus.storeDma w offset value) ∧
      (bus.storeDma w offset value).1.gpu.phase.Valid := by
  rw [checkedStoreDma, storeDma, checkedDmaStoreValue_eq]
  cases bus.dmaStoreValue w offset value with
  | error fault => exact ⟨rfl, h⟩
  | ok word =>
    simp only [Option.bind_eq_bind, Option.bind_some, Dma.checkedStore_eq]
    rcases bus.dma.store (offset &&& 0xfffffffc) word with fault | ⟨dma, _ | port⟩
    · exact ⟨rfl, h⟩
    · exact ⟨rfl, h⟩
    · have hdma : ({ bus with dma } : Bus).gpu.phase.Valid := h
      exact checkedTransfer_eq hdma port

/-- A store to every region has a result, and leaves the phase valid. -/
theorem checkedStoreRegion_eq (h : bus.gpu.phase.Valid)
    (hcontains : region.range.contains address = true) (haligns : w.aligns address = true)
    (value : UInt32) :
    bus.checkedStoreRegion w region address (region.offsetOf address) value =
        some (bus.storeRegion w region address value) ∧
      (bus.storeRegion w region address value).1.gpu.phase.Valid := by
  cases region with
  | bios | interruptControl | expansion1 | expansion2 | timers | cdrom | cacheControl | ramSize =>
    exact ⟨rfl, h⟩
  | ram =>
    have hfits : (Region.ram.offsetOf address).toNat + w.bytes ≤ Playstation.ramSize :=
      Region.offset_fits hcontains haligns rfl rfl
    rw [checkedStoreRegion, Bytes.checkedStore_eq hfits]
    exact ⟨rfl, h⟩
  | dma =>
    obtain ⟨hstore, hvalid⟩ := checkedStoreDma_eq h w (Region.dma.offsetOf address) value
    rw [checkedStoreRegion, storeRegion, hstore]
    simp only [Option.bind_eq_bind, Option.bind_some]
    generalize bus.storeDma w (Region.dma.offsetOf address) value = outcome at hvalid
    rcases outcome with ⟨after, _ | fault⟩ <;> exact ⟨rfl, hvalid⟩
  | gpu =>
    rw [checkedStoreRegion, storeRegion, storeGpu, checkedWiden_eq]
    simp only [Option.bind_eq_bind, Option.bind_some]
    by_cases hport : Region.gpu.offsetOf address < 4
    · rw [if_pos hport, if_pos hport, Gpu.checkedGp0_eq h]
      exact ⟨rfl, Gpu.gp0_valid h _⟩
    · rw [if_neg hport, if_neg hport, Gpu.checkedGp1_eq]
      exact ⟨rfl, Gpu.gp1_valid h _⟩
  | spu =>
    rw [checkedStoreRegion, Spu.checkedStore_eq]
    exact ⟨rfl, h⟩
  | memoryControl =>
    have hoffset : (Region.memoryControl.offsetOf address).toNat < 36 :=
      (Region.toNat_offsetOf hcontains).2.2
    rw [checkedStoreRegion, storeRegion, MemoryControl.checkedLoad_eq _ hoffset]
    simp only [Option.bind_eq_bind, Option.bind_some, checkedMerge_eq,
      MemoryControl.checkedStore_eq _ hoffset]
    rcases bus.memoryControl.store (Region.memoryControl.offsetOf address) _ with fault | control
    · exact ⟨rfl, h⟩
    · exact ⟨rfl, h⟩

/-- Every store has a result, and leaves the phase valid. -/
theorem checkedStore_eq (h : bus.gpu.phase.Valid) (w : Width) (address value : UInt32) :
    bus.checkedStore w address value = some (bus.store w address value) ∧
      (bus.store w address value).1.gpu.phase.Valid := by
  cases haligns : w.aligns address with
  | false =>
    rw [checkedStore, store, haligns]
    exact ⟨rfl, h⟩
  | true =>
    have hphysical : w.aligns (physical address) = true := by
      rw [Width.aligns_physical]
      exact haligns
    rw [checkedStore, store, if_pos haligns, if_pos haligns, checkedPhysical_eq]
    simp only [Option.bind_eq_bind, Option.bind_some]
    rw [Region.checkedFind_eq]
    cases hfind : Region.find? (physical address) with
    | none => exact ⟨rfl, h⟩
    | some region =>
      exact checkedStoreRegion_eq h (Region.contains_of_find? hfind) hphysical value

end Bus

end Playstation
