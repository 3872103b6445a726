import Playstation.Proofs.Bus.Access
import Playstation.Proofs.Field

/-!
# Interrupt flags of the DMA controller

Each channel has a flag in the top byte of the interrupt register, and a write
to the register acknowledges the flags to which it writes a one. A narrow store
writes zeros to the flags of the bytes it does not cover, so it acknowledges
only what it has been told to.
-/

namespace Playstation

open MachineWord

/-- A byte has the same bits as a word. -/
theorem getLsbD_toUInt32 (x : UInt8) (i : Nat) :
    (toBits x.toUInt32).getLsbD i = (toBits x).getLsbD i := by
  refine (BitVec.getLsbD_setWidth 32 x.toBitVec i).trans ?_
  by_cases hi : i < 32
  · rw [decide_eq_true hi, Bool.true_and]
    rfl
  · have hbeyond : x.toBitVec.getLsbD i = false := BitVec.getLsbD_of_ge _ i (by omega)
    rw [hbeyond, Bool.and_false]
    exact hbeyond.symm

/-- A byte in which a field is kept has the bits of the field. -/
theorem getLsbD_toUInt8_bits (x : UInt32) {low high : Nat} (hle : low ≤ high) (hhigh : high < 32)
    (hlength : high - low < 8) (i : Nat) :
    (toBits (bits x low high).toUInt8).getLsbD i =
      ((toBits x).getLsbD (low + i) && decide (i < high - low + 1)) := by
  rw [← getLsbD_toUInt32, toUInt32_toUInt8_bits hle hhigh hlength, getLsbD_bits _ hle hhigh]

namespace Interrupts

/-- Each bit of the register is one of the field it is in. -/
theorem getLsbD_read (interrupts : Interrupts) (i : Nat) :
    (toBits interrupts.read).getLsbD i =
      if i = 31 then interrupts.line
      else if 24 ≤ i ∧ i ≤ 30 then (toBits interrupts.flags).getLsbD (i - 24)
      else if i = 23 then interrupts.master
      else if 16 ≤ i ∧ i ≤ 22 then (toBits interrupts.enabled).getLsbD (i - 16)
      else if i = 15 then interrupts.force
      else (toBits interrupts.spare).getLsbD i := by
  rw [read, getLsbD_setBit _ (by decide), getLsbD_setBits _ _ (by decide) (by decide),
    getLsbD_setBit _ (by decide), getLsbD_setBits _ _ (by decide) (by decide),
    getLsbD_setBit _ (by decide), getLsbD_toUInt32, getLsbD_toUInt32, getLsbD_toUInt32]

/-- The register shows the flag of a channel. -/
theorem getLsbD_read_flag (interrupts : Interrupts) {i : Nat} (h : i < 7) :
    (toBits interrupts.read).getLsbD (24 + i) = (toBits interrupts.flags).getLsbD i := by
  rw [getLsbD_read, if_neg (by omega), if_pos (by omega), Nat.add_sub_cancel_left]

/-- A write leaves a flag unless it writes a one to it. The byte of the flags
has a bit more. -/
theorem getLsbD_flags_write (interrupts : Interrupts) (value : UInt32) {i : Nat} (hi : i < 8) :
    (toBits (interrupts.write value).flags).getLsbD i =
      ((toBits interrupts.flags).getLsbD i &&
        !((toBits value).getLsbD (24 + i) && decide (i < 7))) := by
  have hwidth : i < width UInt8 := hi
  rw [write, getLsbD_and, getLsbD_not, decide_eq_true hwidth, Bool.true_and,
    getLsbD_toUInt8_bits _ (by decide) (by decide) (by decide)]

/-- A write leaves a flag set if it writes a zero to it. -/
theorem getLsbD_write_flag (interrupts : Interrupts) (value : UInt32) {i : Nat} (h : i < 7) :
    (toBits (interrupts.write value).flags).getLsbD i =
      ((toBits interrupts.flags).getLsbD i && !(toBits value).getLsbD (24 + i)) := by
  rw [getLsbD_flags_write _ _ (by omega), decide_eq_true h, Bool.and_true]

end Interrupts

namespace Dma

/-- The flags of all channels, which are bits 24 to 30 of the interrupt
register. -/
def flags (dma : Dma) : UInt32 := bits (dma.read .interrupt) 24 30

/-- The interrupt register is loaded from its offset. -/
theorem load_interrupt (dma : Dma) : dma.load 0x74 = .ok (dma.read .interrupt) := rfl

/-- A write to the interrupt register acknowledges the flags to which it writes
a one. -/
theorem flags_write (dma : Dma) (value : UInt32) :
    flags { dma with interrupts := dma.interrupts.write value } =
      dma.flags &&& ~~~bits value 24 30 := by
  refine eq_of_getLsbD_eq fun i hi => ?_
  rw [flags, flags, getLsbD_and, getLsbD_not, getLsbD_bits _ (by decide) (by decide),
    getLsbD_bits _ (by decide) (by decide), getLsbD_bits _ (by decide) (by decide),
    decide_eq_true hi, Bool.true_and]
  by_cases h : i < 7
  · rw [read, read, Interrupts.getLsbD_read_flag _ h, Interrupts.getLsbD_read_flag _ h,
      Interrupts.getLsbD_write_flag _ _ h, decide_eq_true (show i < 30 - 24 + 1 by omega),
      Bool.and_true, Bool.and_true, Bool.and_true]
  · rw [decide_eq_false (show ¬i < 30 - 24 + 1 by omega), Bool.and_false, Bool.and_false,
      Bool.false_and]

/-- Where a write has a zero for every flag, none is acknowledged. -/
theorem flags_write_of_clear {dma : Dma} {value : UInt32} (h : bits value 24 30 = 0) :
    flags { dma with interrupts := dma.interrupts.write value } = dma.flags := by
  rw [flags_write, h]
  exact UInt32.and_neg_one

/-- Writing the flags back acknowledges all of them. -/
theorem flags_write_of_back {dma : Dma} {value : UInt32} (h : bits value 24 30 = dma.flags) :
    flags { dma with interrupts := dma.interrupts.write value } = 0 := by
  rw [flags_write, h]
  exact UInt32.and_not_self

end Dma

/-- The interrupt register has four addresses in each segment. -/
theorem find?_interrupt {address : UInt32} (h : physical address &&& 0xfffffffc = 0x1f8010f4) :
    Region.find? (physical address) = some .dma ∧
      Region.dma.offsetOf (physical address) &&& 0xfffffffc = 0x74 ∧
      byteShift (Region.dma.offsetOf (physical address)) = byteShift address := by
  have hphysical : physical address = 0x1f8010f4 ||| (address &&& 3) := by
    rw [← or_lowBits (physical address), h, physical_lowBits]
  rw [hphysical, byteShift, byteShift]
  rcases lowBits_cases address with hlow | hlow | hlow | hlow <;> rw [hlow] <;> decide

namespace Bus

variable {bus : Bus} {w : Width} {address : UInt32}

/-- The interrupt register is read through the bus. -/
theorem peek_interrupt (haligns : Width.word.aligns address = true)
    (h : physical address &&& 0xfffffffc = 0x1f8010f4) :
    bus.peek .word address = .ok (bus.dma.read .interrupt) := by
  obtain ⟨hregion, hregister, hshift⟩ := find?_interrupt h
  have hwhole : byteShift address = 0 := by
    rw [byteShift, beq_iff_eq.mp haligns]
    rfl
  have hnarrow : narrow .word (bus.dma.read .interrupt) (Region.dma.offsetOf (physical address)) =
      bus.dma.read .interrupt := by
    rw [narrow, hshift, hwhole, UInt32.shiftRight_zero]
    exact UInt32.and_neg_one
  rw [peek_of_region haligns hregion]
  simp only [peekRegion, hregister, Dma.load_interrupt, hnarrow]

/-- A store to the interrupt register writes zeros to the flags outside of the
bytes it covers. -/
theorem store_interrupt {value : UInt32} (haligns : w.aligns address = true)
    (h : physical address &&& 0xfffffffc = 0x1f8010f4) :
    bus.store w address value =
      ({ bus with
          dma := { bus.dma with
            interrupts := bus.dma.interrupts.write
              (merge w (bus.dma.read .interrupt &&& 0x00ffffff) value
                (Region.dma.offsetOf (physical address))) } },
        none) := by
  obtain ⟨hregion, hregister, -⟩ := find?_interrupt h
  have hvalue : bus.dmaStoreValue w (Region.dma.offsetOf (physical address)) value =
      .ok (merge w (bus.dma.read .interrupt &&& 0x00ffffff) value
        (Region.dma.offsetOf (physical address))) := by
    cases w with
    | word => rfl
    | byte | half => simp only [dmaStoreValue, hregister, Dma.load_interrupt, if_true]
  have hstore (value : UInt32) : bus.dma.store 0x74 value =
      .ok ({ bus.dma with interrupts := bus.dma.interrupts.write value }, none) := rfl
  rw [store_of_region haligns hregion]
  simp only [storeRegion, storeDma, hvalue, hregister, hstore]

/-- A narrow store below the flags acknowledges none. -/
theorem flags_store_narrow {value : UInt32} (hw : w ≠ .word) (haligns : w.aligns address = true)
    (h : physical address &&& 0xfffffffc = 0x1f8010f4)
    (hbelow : (byteShift address).toNat + w.bitCount ≤ 24) :
    (bus.store w address value).1.dma.flags = bus.dma.flags := by
  obtain ⟨-, -, hshift⟩ := find?_interrupt h
  rw [store_interrupt haligns h]
  apply Dma.flags_write_of_clear
  have hkept : bits (merge w (bus.dma.read .interrupt &&& 0x00ffffff) value
      (Region.dma.offsetOf (physical address))) 24 30 =
        bits (bus.dma.read .interrupt &&& 0x00ffffff) 24 30 := by
    refine bits_congr (by decide) (by decide) fun i hlow hhigh => ?_
    rw [getLsbD_merge hw _ _ _ (by omega), hshift, if_neg (by omega)]
  have hmask : (0x00ffffff : UInt32) = lowMask 24 := by decide
  have hzero (i : Nat) : (toBits (0 : UInt32)).getLsbD i = false := BitVec.getLsbD_zero
  rw [hkept, hmask, show (0 : UInt32) = bits 0 24 30 by decide]
  refine bits_congr (by decide) (by decide) fun i hlow _ => ?_
  rw [getLsbD_and, getLsbD_lowMask (by decide) (by decide), decide_eq_false (show ¬i < 24 by omega),
    Bool.and_false, hzero]

/-- A word store which writes the flags back acknowledges all of them. -/
theorem flags_store_back {value : UInt32} (haligns : Width.word.aligns address = true)
    (h : physical address &&& 0xfffffffc = 0x1f8010f4) (hback : bits value 24 30 = bus.dma.flags) :
    (bus.store .word address value).1.dma.flags = 0 := by
  rw [store_interrupt haligns h]
  exact Dma.flags_write_of_back hback

end Bus

end Playstation
