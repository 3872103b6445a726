import Playstation.Proofs.Dma.PartWrite
import Playstation.Proofs.Memory
import Playstation.Proofs.Segment

/-!
# Stores by parts

A value can be stored to a register by bytes and halves. The main statement is
that where this starts no transfer before the last part, the order of the parts
makes no difference: the bus is left as a store of the whole word leaves it, and
the last part ends as that store does, with its transfer and its fault.
-/

namespace Playstation

open MachineWord

namespace WordPart

variable {part : WordPart} {address : UInt32}

/-- A part has an address within its word. -/
theorem toNat_address (h : Width.word.aligns address = true) :
    (address + part.offset).toNat = address.toNat + part.position := by
  have hposition := part.position_bounds.1
  have hoffset : part.offset.toNat = part.position % 2 ^ 32 := UInt32.toNat_ofNat'
  have haddress := address.toNat_lt
  rw [Width.aligns_iff, Width.bytes] at h
  rw [UInt32.toNat_add]
  omega

/-- That address is a multiple of the width of the part. -/
theorem aligns_address (h : Width.word.aligns address = true) :
    part.width.aligns (address + part.offset) = true := by
  have hposition := part.position_bounds.2
  have hnumber := @toNat_address part address h
  rw [Width.aligns_iff, Width.bytes] at h
  rw [Width.aligns_iff, hnumber]
  cases part with
  | byte k => exact Nat.mod_one _
  | half k =>
    simp only [width, Width.bytes] at hposition ⊢
    omega

/-- It names the same part of the physical word. -/
theorem physical_address (h : Width.word.aligns address = true) :
    physical (address + part.offset) = physical address + part.offset := by
  have hposition := part.position_bounds.1
  have hnumber := @toNat_address part address h
  have hphysical : Width.word.aligns (physical address) = true := by
    rw [Width.aligns_physical, h]
  apply UInt32.toNat_inj.mp
  rw [Width.aligns_iff, Width.bytes] at h
  rw [toNat_address hphysical, toNat_physical, toNat_physical, hnumber]
  split_ifs <;> omega

/-- A part is moved to its place in the word of its address. -/
theorem byteShift_add {offset : UInt32} (h : Width.word.aligns offset = true) :
    byteShift (offset + part.offset) = byteShift part.offset := by
  have hlow (x : UInt32) : (x &&& 3).toNat = x.toNat % 4 := @toNat_and_mask x 3 2 rfl
  have hposition := part.position_bounds.1
  have hnumber := @toNat_address part offset h
  have hoffset : part.offset.toNat = part.position % 2 ^ 32 := UInt32.toNat_ofNat'
  rw [Width.aligns_iff, Width.bytes] at h
  have hsame : (offset + part.offset) &&& 3 = part.offset &&& 3 := by
    apply UInt32.toNat_inj.mp
    rw [hlow, hlow, hnumber]
    omega
  rw [byteShift, hsame, byteShift]

/-- It is in the word of its address. -/
theorem upperBits_add {offset : UInt32} (h : Width.word.aligns offset = true) :
    (offset + part.offset) &&& 0xfffffffc = offset &&& 0xfffffffc := by
  have hposition := part.position_bounds.1
  have hnumber := @toNat_address part offset h
  rw [Width.aligns_iff, Width.bytes] at h
  apply UInt32.toNat_inj.mp
  rw [toNat_upperBits, toNat_upperBits, hnumber]
  omega

end WordPart

/-- The windows of different regions do not overlap. -/
theorem Region.disjoint_of_ne {region other : Region} (h : region ≠ other) :
    region.range.start.toNat + region.range.length.toNat ≤ other.range.start.toNat ∨
      other.range.start.toNat + other.range.length.toNat ≤ region.range.start.toNat := by
  cases region <;> cases other <;> first | exact absurd rfl h | decide

/-- Every region has its window tried. -/
theorem Region.mem_all (region : Region) : region ∈ all := by
  cases region <;> decide

/-- An address belongs to the region whose window contains it. -/
theorem Region.find?_of_contains {region : Region} {address : UInt32}
    (h : region.range.contains address = true) : find? address = some region := by
  have hsome : (find? address).isSome := List.find?_isSome.mpr ⟨region, region.mem_all, h⟩
  obtain ⟨other, hother⟩ := Option.isSome_iff_exists.mp hsome
  have hcontains := (other.range.contains_iff address).mp (contains_of_find? hother)
  rw [AddressRange.contains_iff] at h
  by_cases hsame : region = other
  · rw [hother, hsame]
  · rcases disjoint_of_ne hsame with hbefore | hbehind <;> omega

/-- The registers of the DMA controller and the memory control registers are
words. -/
theorem Region.aligns_offsetOf {region : Region} {address : UInt32}
    (hregion : region = .dma ∨ region = .memoryControl) (haligns : Width.word.aligns address = true)
    (h : find? (physical address) = some region) :
    Width.word.aligns (region.offsetOf (physical address)) = true := by
  obtain ⟨hoffset, hstart, -⟩ := toNat_offsetOf (contains_of_find? h)
  have hbase : region.range.start.toNat % 4 = 0 := by
    rcases hregion with rfl | rfl <;> rfl
  rw [← Width.aligns_physical, Width.aligns_iff, Width.bytes] at haligns
  rw [Width.aligns_iff, Width.bytes]
  omega

/-- A part is in the same of these two regions as its word. -/
theorem WordPart.find?_address {region : Region} {part : WordPart} {address : UInt32}
    (hregion : region = .dma ∨ region = .memoryControl) (haligns : Width.word.aligns address = true)
    (h : Region.find? (physical address) = some region) :
    Region.find? (physical (address + part.offset)) = some region ∧
      region.offsetOf (physical (address + part.offset)) =
        region.offsetOf (physical address) + part.offset := by
  have hphysical : Width.word.aligns (physical address) = true := by
    rw [Width.aligns_physical, haligns]
  have hnumber := @toNat_address part _ hphysical
  have hposition := part.position_bounds.1
  have hends : region.range.start.toNat % 4 = 0 ∧ region.range.length.toNat % 4 = 0 := by
    rcases hregion with rfl | rfl <;> decide
  obtain ⟨hstart, hlength⟩ :=
    (region.range.contains_iff _).mp (Region.contains_of_find? h)
  rw [Width.aligns_iff, Width.bytes] at hphysical
  rw [physical_address haligns]
  refine ⟨Region.find?_of_contains ((region.range.contains_iff _).mpr ?_), ?_⟩
  · rw [hnumber]
    omega
  · rw [Region.offsetOf, Region.offsetOf, UInt32.sub_eq_add_neg, UInt32.sub_eq_add_neg,
      UInt32.add_assoc, UInt32.add_comm part.offset, ← UInt32.add_assoc]

/-- The bytes of a part are merged where they belong. -/
theorem WordPart.merge_eq_put {part : WordPart} {offset : UInt32}
    (h : Width.word.aligns offset = true) (value word : UInt32) :
    merge part.width word (part.of value) (offset + part.offset) = part.put value word := by
  have hshift := @byteShift_add part offset h
  cases part with
  | byte k | half k => simp only [put, merge, widen, hshift]

/-- The interrupt register is the only one from whose bytes flags are kept. -/
theorem DmaRegister.ofOffset?_eq_interrupt {offset : UInt32} {register : DmaRegister}
    (hinside : offset.toNat < 128) (h : ofOffset? (offset &&& 0xfffffffc) = some register) :
    register = .interrupt ↔ offset &&& 0xfffffffc = 0x74 := by
  have hoffsets : ∀ offset : Fin 128,
      ofOffset? (UInt32.ofNat offset &&& 0xfffffffc) = some .interrupt →
        UInt32.ofNat offset &&& 0xfffffffc = 0x74 := by decide +kernel
  have hoffset := hoffsets ⟨_, hinside⟩
  rw [UInt32.ofNat_toNat] at hoffset
  constructor
  · rintro rfl
    exact hoffset h
  · intro heq
    rw [heq] at h
    exact (Option.some.inj h).symm

namespace MemoryControl

variable {control : MemoryControl} {offset value : UInt32}

/-- Only the first two registers refuse values. -/
theorem store_of_two_le (h : 2 ≤ offset.toNat / 4) :
    control.store offset value =
      .ok ⟨control.registers.setIfInBounds (offset.toNat / 4) value⟩ := by
  rw [store, if_neg (by omega), if_neg (by omega)]

/-- A register which has been stored is loaded. -/
theorem load_setIfInBounds (hinside : offset.toNat / 4 < 9) :
    load ⟨control.registers.setIfInBounds (offset.toNat / 4) value⟩ offset = value := by
  rw [load, Vector.getElem?_setIfInBounds_self_of_lt hinside, Option.getD_some]

/-- Storing what is loaded changes nothing. -/
theorem setIfInBounds_load (hinside : offset.toNat / 4 < 9) :
    control.registers.setIfInBounds (offset.toNat / 4) (control.load offset) =
      control.registers := by
  have hload : control.load offset = control.registers[offset.toNat / 4] := by
    rw [load, Vector.getElem?_eq_getElem hinside, Option.getD_some]
  rw [hload]
  ext i hi
  rw [Vector.getElem_setIfInBounds]
  split_ifs with heq
  · simp only [heq]
  · rfl

end MemoryControl

namespace Bus

variable {bus : Bus} {w : Width} {address offset value : UInt32} {register : DmaRegister}
  {part : WordPart} {parts : List WordPart}

/-- Store one part of a value to the word at an address. -/
def storePart (bus : Bus) (address value : UInt32) (part : WordPart) : Bus × Option BusFault :=
  bus.store part.width (address + part.offset) (part.of value)

/-- Store parts of a value to the word at an address, one after the other. The
last one says whether the store is refused. -/
def storeParts (bus : Bus) (address value : UInt32) (parts : List WordPart) :
    Bus × Option BusFault :=
  parts.foldl (fun outcome part => outcome.1.storePart address value part) (bus, none)

/-- The last part finds what the others leave. -/
theorem storeParts_concat (bus : Bus) (address value : UInt32) (parts : List WordPart)
    (part : WordPart) :
    bus.storeParts address value (parts ++ [part]) =
      (bus.storeParts address value parts).1.storePart address value part := by
  rw [storeParts, List.foldl_append]
  rfl

/-- Write a word to a register of the DMA controller, and run the transfer which
it starts. -/
def writeDma (bus : Bus) (register : DmaRegister) (word : UInt32) : Bus × Option BusFault :=
  match bus.dma.write register word with
  | .ok dma =>
    match dma.ready? register with
    | some port =>
      ((({ bus with dma } : Bus).transfer port).1,
        (({ bus with dma } : Bus).transfer port).2.map .dma)
    | none => ({ bus with dma }, none)
  | .error fault => (bus, some (.dma fault))

/-- A store to a register writes the word which it makes up. -/
theorem store_eq_writeDma {w : Width} {word : UInt32} (haligns : w.aligns address = true)
    (hregion : Region.find? (physical address) = some .dma)
    (hregister : DmaRegister.ofOffset?
      (Region.dma.offsetOf (physical address) &&& 0xfffffffc) = some register)
    (hword : bus.dmaStoreValue w (Region.dma.offsetOf (physical address)) value = .ok word) :
    bus.store w address value = bus.writeDma register word := by
  rw [store_of_dma haligns hregion, writeDma]
  simp only [storeDma, hword, Dma.store, hregister]
  cases bus.dma.write register word with
  | error fault => rfl
  | ok dma =>
    simp only
    cases dma.ready? register <;> rfl

/-- A part which is stored is put into what is read back of the register. -/
theorem dmaStoreValue_part (haligns : Width.word.aligns offset = true)
    (hinside : offset.toNat < 128)
    (h : DmaRegister.ofOffset? (offset &&& 0xfffffffc) = some register) :
    bus.dmaStoreValue part.width (offset + part.offset) (part.of value) =
      .ok (part.put value (bus.dma.readBack register)) := by
  have hload : bus.dma.load (offset &&& 0xfffffffc) = .ok (bus.dma.read register) := by
    rw [Dma.load, h]
  have hread : (if offset &&& 0xfffffffc = 0x74 then bus.dma.read register &&& 0x00ffffff
      else bus.dma.read register) = bus.dma.readBack register :=
    if_congr (DmaRegister.ofOffset?_eq_interrupt hinside h).symm rfl rfl
  rw [← WordPart.merge_eq_put haligns, ← hread]
  cases part with
  | byte k | half k =>
    simp only [dmaStoreValue, WordPart.width, WordPart.upperBits_add haligns, hload]

/-- A store of a part of a value writes the register with the part in it. -/
theorem storePart_eq_writeDma
    (h : (Operation.store .word address value).register? = some register) :
    bus.storePart address value part =
      bus.writeDma register (part.put value (bus.dma.readBack register)) := by
  obtain ⟨⟨haligns, hregion⟩, hregister⟩ := Operation.register?_store_eq_some.mp h
  obtain ⟨hpart, hplace⟩ := @WordPart.find?_address .dma part address (.inl rfl) haligns hregion
  have hinside := (Region.toNat_offsetOf (Region.contains_of_find? hregion)).2.2
  have hwords := Region.aligns_offsetOf (.inl rfl) haligns hregion
  refine store_eq_writeDma (WordPart.aligns_address haligns) hpart ?_ ?_
  · rw [hplace, WordPart.upperBits_add hwords]
    exact hregister
  · rw [hplace]
    exact dmaStoreValue_part hwords hinside hregister

/-- While the parts start no transfer, they put together a word in the
register. -/
theorem storeParts_quiet (h : (Operation.store .word address value).register? = some register)
    (hquiet : ∀ before, before <+: parts →
      bus.dma.Quiet register (WordPart.putAll before value (bus.dma.readBack register))) :
    ∃ dma, bus.storeParts address value parts = ({ bus with dma }, none) ∧
      bus.dma.Resumes dma register value
        (WordPart.putAll parts value (bus.dma.readBack register)) := by
  -- From the back: the last part is written into the word that the others have made.
  induction parts using List.reverseRecOn with
  | nil =>
    refine ⟨bus.dma, rfl, ?_⟩
    intro part next hnext
    exact hnext
  | append_singleton parts part ih =>
    obtain ⟨dma, hstored, hresumes⟩ :=
      ih fun before hbefore => hquiet before (hbefore.trans (List.prefix_append parts [part]))
    obtain ⟨after, hafter, hready⟩ := (hquiet _ List.prefix_rfl).write
    refine ⟨after, ?_, Dma.resumes_write hafter fun hregister i => Dma.putAll_flags hregister⟩
    rw [WordPart.putAll_concat] at hafter
    have hwrite := hresumes part after hafter
    rw [storeParts_concat, hstored, storePart_eq_writeDma h, writeDma]
    simp only [hwrite, hready]

/-- A store of a word to a register writes the word. -/
theorem store_word_eq_writeDma
    (h : (Operation.store .word address value).register? = some register) :
    bus.store .word address value = bus.writeDma register value := by
  obtain ⟨⟨haligns, hregion⟩, hregister⟩ := Operation.register?_store_eq_some.mp h
  exact store_eq_writeDma haligns hregion hregister rfl

/-- A store by parts to a register of the DMA controller is the store of the
word. -/
theorem storeParts_dma (hpartition : WordPart.Partition parts)
    (h : (Operation.store .word address value).register? = some register)
    (hadmits : bus.dma.AdmitsParts register value parts) :
    bus.storeParts address value parts = bus.store .word address value := by
  obtain ⟨next, hnext⟩ := hadmits.accepted
  obtain rfl | ⟨init, last, rfl⟩ := parts.eq_nil_or_concat
  · cases hpartition.length_eq
  · rw [List.concat_eq_append] at hpartition hadmits ⊢
    obtain ⟨dma, hstored, hresumes⟩ := storeParts_quiet h fun before => hadmits.quiet hpartition
    have hwhole : last.put value (WordPart.putAll init value (bus.dma.readBack register)) =
        value := by
      rw [← WordPart.putAll_concat]
      exact hpartition.putAll_eq
    have hwrite := hresumes last next (by rw [hwhole, hnext])
    rw [storeParts_concat, hstored, storePart_eq_writeDma h, store_word_eq_writeDma h, writeDma,
      writeDma]
    simp only [hwrite, hnext]

/-- A store to a memory control register which refuses nothing sets the
register. -/
theorem store_memoryControl (haligns : w.aligns address = true)
    (hregion : Region.find? (physical address) = some .memoryControl)
    (hplace : Region.memoryControl.offsetOf (physical address) = offset)
    (hnumber : 2 ≤ offset.toNat / 4) :
    bus.store w address value =
      ({ bus with memoryControl := ⟨bus.memoryControl.registers.setIfInBounds (offset.toNat / 4)
        (merge w (bus.memoryControl.load offset) value offset)⟩ }, none) := by
  rw [store_of_region haligns hregion, storeRegion]
  simp only [hplace, MemoryControl.store_of_two_le hnumber]

/-- A store of a part of a value sets the register with the part in it. -/
theorem storePart_memoryControl (haligns : Width.word.aligns address = true)
    (hregion : Region.find? (physical address) = some .memoryControl)
    (hplace : Region.memoryControl.offsetOf (physical address) = offset)
    (hnumber : 2 ≤ offset.toNat / 4) :
    bus.storePart address value part =
      ({ bus with memoryControl := ⟨bus.memoryControl.registers.setIfInBounds (offset.toNat / 4)
        (part.put value (bus.memoryControl.load offset))⟩ }, none) := by
  obtain ⟨hpart, hpartPlace⟩ :=
    @WordPart.find?_address .memoryControl part address (.inr rfl) haligns hregion
  have hwords := Region.aligns_offsetOf (.inr rfl) haligns hregion
  rw [hplace] at hpartPlace hwords
  have hsame : (offset + part.offset).toNat / 4 = offset.toNat / 4 := by
    have hposition := part.position_bounds.1
    have hoffset := @WordPart.toNat_address part offset hwords
    rw [Width.aligns_iff, Width.bytes] at hwords
    omega
  have hload : bus.memoryControl.load (offset + part.offset) = bus.memoryControl.load offset := by
    rw [MemoryControl.load, MemoryControl.load, hsame]
  rw [storePart, store_memoryControl (WordPart.aligns_address haligns) hpart hpartPlace
    (by omega), hload, WordPart.merge_eq_put hwords, hsame]

/-- Parts which are stored to a memory control register are put into it. -/
theorem storeParts_memoryControl (haligns : Width.word.aligns address = true)
    (hregion : Region.find? (physical address) = some .memoryControl)
    (hplace : Region.memoryControl.offsetOf (physical address) = offset)
    (hnumber : 2 ≤ offset.toNat / 4) :
    bus.storeParts address value parts =
      ({ bus with memoryControl := ⟨bus.memoryControl.registers.setIfInBounds (offset.toNat / 4)
        (WordPart.putAll parts value (bus.memoryControl.load offset))⟩ }, none) := by
  have hinside : offset.toNat / 4 < 9 := by
    have hlength := (Region.toNat_offsetOf (Region.contains_of_find? hregion)).2.2
    rw [hplace] at hlength
    exact Nat.div_lt_of_lt_mul hlength
  induction parts using List.reverseRecOn with
  | nil =>
    rw [WordPart.putAll, List.foldl_nil, MemoryControl.setIfInBounds_load hinside]
    rfl
  | append_singleton parts part ih =>
    rw [storeParts_concat, ih, storePart_memoryControl haligns hregion hplace hnumber,
      MemoryControl.load_setIfInBounds hinside, Vector.setIfInBounds_setIfInBounds,
      ← WordPart.putAll_concat]

/-- Whether a word can be stored by parts in the given order. -/
inductive AdmitsParts (bus : Bus) (address value : UInt32) (parts : List WordPart) : Prop where
  /-- A register of the DMA controller which can be written by them. -/
  | dma {register : DmaRegister}
    (hregister : (Operation.store .word address value).register? = some register)
    (hparts : bus.dma.AdmitsParts register value parts)
  /-- A memory control register behind the two which hold the bases of the
  expansion windows. -/
  | memoryControl (haligns : Width.word.aligns address = true)
    (hregion : Region.find? (physical address) = some .memoryControl)
    (hnumber : 2 ≤ (Region.memoryControl.offsetOf (physical address)).toNat / 4)

/-- A word which is stored by parts, each byte in one of them, is stored as at
once: to the base or the block control of a channel which is not active, to the
control or interrupt register of the DMA controller, and to a memory control
register behind the first two, whatever the order; to the control register of a
channel which is not enabled, if the sync mode exists, in each order which ends
with the top byte. The transfer that starts, and its fault, are the same. -/
theorem storeParts_eq_store (hpartition : WordPart.Partition parts)
    (h : bus.AdmitsParts address value parts) :
    bus.storeParts address value parts = bus.store .word address value := by
  cases h with
  | dma hregister hparts => exact storeParts_dma hpartition hregister hparts
  | memoryControl haligns hregion hnumber =>
    rw [storeParts_memoryControl haligns hregion rfl hnumber, hpartition.putAll_eq,
      store_memoryControl haligns hregion rfl hnumber]
    rfl

/-- At power on the control register of the graphics channel can be stored by a
half and two bytes, the last of which starts the transfer of a list. -/
theorem storeParts_powerOn :
    WordPart.Partition [.half 0, .byte 2, .byte 3] ∧
      (powerOn (.ofWord 0)).AdmitsParts 0x1f8010a8 0x01000401 [.half 0, .byte 2, .byte 3] ∧
      (powerOn (.ofWord 0)).storeParts 0x1f8010a8 0x01000401 [.half 0, .byte 2, .byte 3] =
        (powerOn (.ofWord 0)).store .word 0x1f8010a8 0x01000401 := by
  have hpartition : WordPart.Partition [.half 0, .byte 2, .byte 3] := by decide
  have hadmits : (powerOn (.ofWord 0)).AdmitsParts 0x1f8010a8 0x01000401
      [.half 0, .byte 2, .byte 3] := by
    have hregister : (Operation.store .word 0x1f8010a8 0x01000401).register? =
        some (.channelControl .gpu) := by decide
    have hparts : Dma.powerOn.AdmitsParts (.channelControl .gpu) 0x01000401
        [.half 0, .byte 2, .byte 3] :=
      ⟨rfl, .inl (by decide), .byte 3, rfl, by decide⟩
    exact .dma hregister hparts
  exact ⟨hpartition, hadmits, storeParts_eq_store hpartition hadmits⟩

end Bus

end Playstation
