import Playstation.Proofs.Bus.KeptRegister
import Playstation.Proofs.Cpu.Store

/-!
# How much of a value is stored

A store is given a whole word and moves as many of its bytes as the width says. Main
memory, the sound processor, the DMA controller and the memory control registers cut the
value to these bytes, so two values which agree there are stored alike. Three places do
not cut it. The ports of the graphics processor move the whole value up, and the cache
control and the RAM size register keep all of it. The main statement says at which widths
and addresses the bytes above the width count, and that no store instruction brings any
there.
-/

namespace Playstation

open MachineWord

namespace Width

/-- Two values have the same low bytes, those which an access of the width moves. -/
def Agrees (w : Width) (value other : UInt32) : Prop :=
  value.toNat % 2 ^ (8 * w.bytes) = other.toNat % 2 ^ (8 * w.bytes)

variable {w : Width} {value other : UInt32}

/-- The bits of a width are those of its bytes. -/
theorem bitCount_eq (w : Width) : w.bitCount = 8 * w.bytes := by
  cases w <;> rfl

/-- Values agree if their low bits do. -/
theorem agrees_iff :
    w.Agrees value other ↔
      ∀ i < 8 * w.bytes, (toBits value).getLsbD i = (toBits other).getLsbD i := by
  unfold Agrees
  constructor
  · intro h i hi
    have hbit := congrArg (fun n => n.testBit i) h
    simp only [Nat.testBit_mod_two_pow, decide_eq_true hi, Bool.true_and] at hbit
    exact hbit
  · intro h
    apply Nat.eq_of_testBit_eq
    intro i
    rw [Nat.testBit_mod_two_pow, Nat.testBit_mod_two_pow]
    by_cases hi : i < 8 * w.bytes
    · exact congrArg (decide _ && ·) (h i hi)
    · rw [decide_eq_false hi, Bool.false_and, Bool.false_and]

namespace Agrees

/-- Whole words which agree are equal. -/
theorem eq_of_word (h : Width.word.Agrees value other) : value = other := by
  have hwords : value.toNat % 2 ^ 32 = other.toNat % 2 ^ 32 := h
  rw [Nat.mod_eq_of_lt value.toNat_lt, Nat.mod_eq_of_lt other.toNat_lt] at hwords
  exact UInt32.toNat_inj.mp hwords

/-- The bytes of the width are the same. -/
theorem wordByte_eq (h : w.Agrees value other) {k : Nat} (hk : k < w.bytes) :
    wordByte value k = wordByte other k := by
  have hfour : k < 4 := by
    rcases w.bytes_cases with hw | hw | hw <;> omega
  exact wordByte_congr hfour hfour fun i hi => agrees_iff.mp h _ (by omega)

/-- They replace the same bytes of a register. -/
theorem merge_eq (h : w.Agrees value other) (old offset : UInt32) :
    merge w old value offset = merge w old other offset := by
  by_cases hw : w = .word
  · subst hw
    rw [h.eq_of_word]
  · refine eq_of_getLsbD_eq fun i hi => ?_
    rw [getLsbD_merge hw _ _ _ hi, getLsbD_merge hw _ _ _ hi, w.bitCount_eq]
    refine if_ctx_congr Iff.rfl (fun hinside => ?_) fun _ => rfl
    exact agrees_iff.mp h _ (by omega)

/-- Moved up to the top of a register they are the same. -/
theorem widen_eq (h : w.Agrees value other) {offset : UInt32}
    (htop : 4 ≤ (offset &&& 3).toNat + w.bytes) : widen value offset = widen other offset := by
  have hshift := toNat_byteShift offset
  have hlow := toNat_lowBits_le offset
  unfold widen
  refine eq_of_getLsbD_eq fun i hi => ?_
  have hi : i < 32 := hi
  rw [getLsbD_shiftLeft _ (by omega) hi, getLsbD_shiftLeft _ (by omega) hi,
    agrees_iff.mp h _ (by omega)]

end Agrees

end Width

variable {w : Width} {value other : UInt32}

/-- A memory takes the bytes of the width. -/
theorem Bytes.store_agrees {size : Nat} (memory : Bytes size) (offset : Nat)
    (h : w.Agrees value other) : memory.store w offset value = memory.store w offset other := by
  have hbyte {k : Nat} (hk : k < w.bytes) := h.wordByte_eq hk
  cases w with
  | byte =>
    have hfirst : value.toUInt8 = other.toUInt8 := hbyte (k := 0) (by decide)
    rw [store, store, hfirst]
  | half =>
    have hfirst : value.toUInt8 = other.toUInt8 := hbyte (k := 0) (by decide)
    have hsecond : (value >>> 8).toUInt8 = (other >>> 8).toUInt8 := hbyte (k := 1) (by decide)
    rw [store, store, hfirst, hsecond]
  | word => rw [h.eq_of_word]

/-- The sound processor takes the halfwords which the width covers. -/
theorem Spu.store_agrees (spu : Spu) (address : UInt32) (h : w.Agrees value other) :
    spu.store w address value = spu.store w address other := by
  cases w with
  | byte => rfl
  | half =>
    have hhalf : value.toUInt16 = other.toUInt16 := by
      rw [← UInt16.toNat_inj, UInt32.toNat_toUInt16, UInt32.toNat_toUInt16]
      exact h
    rw [store, store, hhalf]
  | word => rw [h.eq_of_word]

namespace Bus

/-- Whether the place which a store reaches looks at the bytes of the width only. A port of
the graphics processor takes all that fits above the address, and the cache control and
the RAM size register take the whole value. -/
def TakesWidth (w : Width) (address : UInt32) : Prop :=
  match target? w address with
  | some .gpu => 4 ≤ (address &&& 3).toNat + w.bytes
  | some .cacheControl | some .ramSize => w = .word
  | _ => True

variable {bus : Bus} {address : UInt32}

/-- The DMA controller takes the bytes of the width. -/
theorem storeDma_agrees (bus : Bus) (offset : UInt32) (h : w.Agrees value other) :
    bus.storeDma w offset value = bus.storeDma w offset other := by
  have hvalue : bus.dmaStoreValue w offset value = bus.dmaStoreValue w offset other := by
    cases w with
    | byte | half => simp only [dmaStoreValue, h.merge_eq]
    | word => rw [h.eq_of_word]
  rw [storeDma, storeDma, hvalue]

/-- A value for a port is moved as far up as the address is above that of the port. -/
theorem widen_offsetOf_gpu (hregion : Region.find? (physical address) = some .gpu)
    (value : UInt32) :
    widen value (Region.gpu.offsetOf (physical address)) = widen value address := by
  rw [widen, widen, byteShift_offsetOf_gpu hregion]

/-- At the top of its word a port of the graphics processor takes the bytes of the
width. -/
theorem storeGpu_agrees (hregion : Region.find? (physical address) = some .gpu)
    (htop : 4 ≤ (address &&& 3).toNat + w.bytes) (h : w.Agrees value other) :
    bus.storeGpu (Region.gpu.offsetOf (physical address)) value =
      bus.storeGpu (Region.gpu.offsetOf (physical address)) other := by
  rw [storeGpu, storeGpu, widen_offsetOf_gpu hregion, widen_offsetOf_gpu hregion,
    h.widen_eq htop]

/-- Values which agree are stored alike where only the bytes of the width count. -/
theorem TakesWidth.store_agrees (htakes : TakesWidth w address) (bus : Bus)
    (h : w.Agrees value other) : bus.store w address value = bus.store w address other := by
  by_cases haligns : w.aligns address = true
  · cases hregion : Region.find? (physical address) with
    | none => simp only [store, hregion]
    | some region =>
      rw [TakesWidth, target?, if_pos haligns, hregion] at htakes
      rw [store_of_region haligns hregion, store_of_region haligns hregion]
      unfold storeRegion
      cases region with
      | ram => simp only [bus.ram.store_agrees _ h]
      | dma => simp only [bus.storeDma_agrees _ h]
      | gpu => simp only [storeGpu_agrees hregion htakes h]
      | spu => simp only [bus.spu.store_agrees _ h]
      | memoryControl => simp only [h.merge_eq]
      | cacheControl | ramSize =>
        cases htakes
        rw [h.eq_of_word]
      | _ => rfl
  · rw [store, store, if_neg haligns, if_neg haligns]

/-- A command consists of the top byte of a word. From further below it is reached by a
value whose bytes of the width are clear. -/
theorem exists_agrees_widen {command : UInt32} (hcommand : command &&& 0x00ffffff = 0)
    (hbelow : (address &&& 3).toNat + w.bytes < 4) :
    ∃ value, w.Agrees value 0 ∧ widen value address = command := by
  have hmask : (0x00ffffff : UInt32) = lowMask 24 := by decide
  have hshift := toNat_byteShift address
  have hclear {i : Nat} (hi : i < 24) : (toBits command).getLsbD i = false := by
    have hbit : (toBits (command &&& 0x00ffffff)).getLsbD i = false :=
      hcommand ▸ BitVec.getLsbD_zero
    rw [hmask, getLsbD_and, getLsbD_lowMask (by decide) (by decide), decide_eq_true hi,
      Bool.and_true] at hbit
    exact hbit
  refine ⟨command >>> byteShift address, Width.agrees_iff.mpr fun i hi => ?_, ?_⟩
  · rw [getLsbD_shiftRight _ (by omega), hclear (by omega)]
    exact (BitVec.getLsbD_zero ..).symm
  · unfold widen
    refine eq_of_getLsbD_eq fun i hi => ?_
    rw [getLsbD_shiftLeft _ (by omega) hi, getLsbD_shiftRight _ (by omega)]
    by_cases hinside : (byteShift address).toNat ≤ i
    · rw [decide_eq_true hinside, Bool.true_and, Nat.add_sub_cancel' hinside]
    · rw [decide_eq_false hinside, Bool.false_and, hclear (by omega)]

/-- From further below, a value which agrees with zero starts a fill at the drawing port,
and turns the screen on at the control port. Zero does neither. -/
theorem exists_agrees_storeGpu_ne (hregion : Region.find? (physical address) = some .gpu)
    (hbelow : (address &&& 3).toNat + w.bytes < 4) (hidle : bus.gpu.isIdle = true) :
    ∃ value, w.Agrees value 0 ∧
      bus.storeGpu (Region.gpu.offsetOf (physical address)) value ≠
        bus.storeGpu (Region.gpu.offsetOf (physical address)) 0 := by
  have hplace := widen_offsetOf_gpu hregion
  have hzero : widen 0 address = 0 := UInt32.zero_shiftLeft
  unfold storeGpu
  by_cases hport : Region.gpu.offsetOf (physical address) < 4
  · obtain ⟨value, hagrees, hwiden⟩ :=
      @exists_agrees_widen w address 0x02000000 (by decide) hbelow
    refine ⟨value, hagrees, fun hsame => ?_⟩
    -- After the fill the port waits for parameters, and after zero for a command.
    have hfill : Gp0Start.ofWord 0x02000000 = .collect .fillRect 3 := by decide
    have hnop : Gp0Start.ofWord 0 = .nop := by decide
    have hphase := congrArg (fun bus => bus.gpu.phase) hsame
    simp only [if_pos hport, hplace, hwiden, hzero, Gpu.gp0_of_isIdle hidle, Gpu.start, hfill,
      hnop] at hphase
    cases hphase
  · obtain ⟨value, hagrees, hwiden⟩ :=
      @exists_agrees_widen w address 0x03000000 (by decide) hbelow
    refine ⟨value, hagrees, fun hsame => ?_⟩
    have hscreen := congrArg (fun bus => bus.gpu.display.disabled) hsame
    simp only [if_neg hport, hplace, hwiden, hzero] at hscreen
    change bit (0x03000000 : UInt32) 0 = true at hscreen
    exact absurd hscreen (by decide)

/-- Where the bytes above the width count there are two values which agree and have
different effects, if the drawing port waits for a command. -/
theorem exists_agrees_store_ne (h : ¬TakesWidth w address) (hidle : bus.gpu.isIdle = true) :
    ∃ value other, w.Agrees value other ∧
      (bus.store w address value).1 ≠ (bus.store w address other).1 := by
  unfold TakesWidth at h
  cases htarget : target? w address with
  | none =>
    rw [htarget] at h
    exact absurd trivial h
  | some region =>
    rw [htarget] at h
    obtain ⟨haligns, hregion⟩ := Option.ite_none_right_eq_some.mp htarget
    cases region with
    | gpu =>
      obtain ⟨value, hagrees, hne⟩ := exists_agrees_storeGpu_ne hregion (Nat.lt_of_not_le h) hidle
      refine ⟨value, 0, hagrees, ?_⟩
      rw [store_of_region haligns hregion, store_of_region haligns hregion]
      exact hne
    | cacheControl | ramSize =>
      have hagrees : w.Agrees 0x10000 0 := by
        cases w with
        | byte | half => rfl
        | word => exact absurd rfl h
      refine ⟨0x10000, 0, hagrees, ?_⟩
      rw [store_of_region haligns hregion, store_of_region haligns hregion]
      intro hsame
      have hkept := congrArg (fun bus => (bus.cacheControl, bus.ramSize)) hsame
      simp [storeRegion] at hkept
    | _ => exact absurd trivial h

/-- A store instruction brings no more than the bytes of its width to the bus. -/
theorem storeBy_agrees (bus : Bus) (isolated : Bool) (op : StoreOp) (address : UInt32)
    (h : op.width.Agrees value other) :
    bus.storeBy isolated op address value = bus.storeBy isolated op address other := by
  have hcombine (old : UInt32) : op.combine address old value = op.combine address old other := by
    cases op with
    | sb =>
      have hbyte (x : UInt32) : (x &&& 0xff).toNat = x.toNat % 2 ^ 8 := @toNat_and_mask x 0xff 8 rfl
      exact UInt32.toNat_inj.mp ((hbyte value).trans (h.trans (hbyte other).symm))
    | sh =>
      have hhalf (x : UInt32) : (x &&& 0xffff).toNat = x.toNat % 2 ^ 16 :=
        @toNat_and_mask x 0xffff 16 rfl
      exact UInt32.toNat_inj.mp ((hhalf value).trans (h.trans (hhalf other).symm))
    | sw | swl | swr => rw [h.eq_of_word]
  simp only [storeBy, StoreOp.value, hcombine]

/-- On every bus, two values which agree in the bytes of the width are stored alike, with the
same result, except below the top of a port of the graphics processor and in a narrow store
to the cache control or the RAM size register. In each of these places there are two values
which agree and are stored differently, whenever the drawing port waits for a command. No
store instruction does this: what it does to the bus depends on the bytes of its width
only. -/
theorem store_takes_width (bus : Bus) :
    (∀ w address, TakesWidth w address → ∀ value other, w.Agrees value other →
      bus.store w address value = bus.store w address other) ∧
    (∀ w address, ¬TakesWidth w address → bus.gpu.isIdle = true →
      ∃ value other, w.Agrees value other ∧
        (bus.store w address value).1 ≠ (bus.store w address other).1) ∧
    ∀ (isolated : Bool) (op : StoreOp) (address value other : UInt32),
      op.width.Agrees value other →
      bus.storeBy isolated op address value = bus.storeBy isolated op address other :=
  ⟨fun _ _ htakes _ _ h => htakes.store_agrees bus h,
    fun _ _ h hidle => exists_agrees_store_ne h hidle,
    fun isolated op address _ _ h => bus.storeBy_agrees isolated op address h⟩

/-- A byte stored to main memory is cut, and so is one which an instruction stores to the
control port. A byte which is stored to the control port by itself need not be. -/
theorem store_takes_width_powerOn :
    let bus := powerOn (.ofWord 0)
    TakesWidth .byte 0x80000010 ∧ Width.byte.Agrees 0x1234 0x34 ∧
      bus.store .byte 0x80000010 0x1234 = bus.store .byte 0x80000010 0x34 ∧
      ¬TakesWidth .byte 0x1f801814 ∧ bus.gpu.isIdle = true ∧
      (∃ value other, Width.byte.Agrees value other ∧
        (bus.store .byte 0x1f801814 value).1 ≠ (bus.store .byte 0x1f801814 other).1) ∧
      Width.byte.Agrees 0x04000002 0x02 ∧
      bus.storeBy false .sb 0x1f801814 0x04000002 = bus.storeBy false .sb 0x1f801814 0x02 := by
  intro bus
  obtain ⟨hcut, huncut, hinstruction⟩ := store_takes_width bus
  have hmemory : TakesWidth .byte 0x80000010 := trivial
  have hport : ¬TakesWidth .byte 0x1f801814 := by
    change ¬4 ≤ 1
    decide
  have hagrees : Width.byte.Agrees 0x04000002 0x02 := rfl
  exact ⟨hmemory, rfl, hcut .byte _ hmemory _ _ rfl, hport, rfl, huncut .byte _ hport rfl,
    hagrees, hinstruction false .sb _ _ _ hagrees⟩

/-- A byte of two is stored to the control port. The byte alone is no command, so the word
around it resets the graphics processor, and with more above the byte it is the command
which sets the direction of DMA. The status register shows the difference. -/
theorem store_byte_controlPort :
    let bus := powerOn (.ofWord 0)
    Width.byte.Agrees 0x04000002 0x02 ∧
      (bus.store .byte 0x1f801814 0x04000002).1.peek .word 0x1f801814 = .ok 0x5e802000 ∧
      (bus.store .byte 0x1f801814 0x02).1.peek .word 0x1f801814 = .ok 0x1c802000 ∧
      ¬∀ value other, Width.byte.Agrees value other →
        bus.store .byte 0x1f801814 value = bus.store .byte 0x1f801814 other := by
  have hagrees : Width.byte.Agrees 0x04000002 0x02 := rfl
  have hcommand : ((powerOn (.ofWord 0)).store .byte 0x1f801814 0x04000002).1.peek .word
      0x1f801814 = .ok 0x5e802000 := rfl
  have hreset : ((powerOn (.ofWord 0)).store .byte 0x1f801814 0x02).1.peek .word 0x1f801814 =
      .ok 0x1c802000 := rfl
  refine ⟨hagrees, hcommand, hreset, fun hsame => ?_⟩
  rw [hsame _ _ hagrees, hreset] at hcommand
  exact absurd (Except.ok.inj hcommand) (by decide)

end Bus

end Playstation
