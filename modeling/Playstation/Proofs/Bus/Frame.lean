import Playstation.Proofs.Bus.MainMemory
import Playstation.Proofs.Bus.Refusal
import Playstation.Proofs.Cpu.Operation

/-!
# What a store touches

A store touches the one component which its region selects. Only the window of
the DMA controller reaches further, when the write of a register starts a
transfer: that one touches the graphics processor or main memory, by the port
of the channel, and of the controller what tells that the channel is done. The
boot ROM and the places of the expansion windows are touched by no store, so
they stay in every run what they have been at power on.
-/

namespace Playstation

namespace MemoryControl

variable {control after : MemoryControl} {offset value : UInt32}

/-- A store which is not refused replaces the register at its offset. -/
theorem getElem_store (h : control.store offset value = .ok after) (i : Nat) (hi : i < 9) :
    after.registers[i] = if offset.toNat / 4 = i then value else control.registers[i] := by
  rw [store] at h
  split at h
  · cases h
  · split at h
    · cases h
    · cases h
      exact Vector.getElem_setIfInBounds hi

/-- A store which is not refused puts the first expansion window where it is,
if it reaches its register. -/
theorem store_expansion1 (h : control.store offset value = .ok after)
    (hregister : offset.toNat / 4 = 0) : value = Region.expansion1.range.start := by
  by_contra hmoves
  rw [store, if_pos ⟨hregister, hmoves⟩] at h
  cases h

/-- A store which is not refused puts the second expansion window where it is,
if it reaches its register. -/
theorem store_expansion2 (h : control.store offset value = .ok after)
    (hregister : offset.toNat / 4 = 1) : value = Region.expansion2.range.start := by
  by_contra hmoves
  rw [store, if_neg (by omega), if_pos ⟨hregister, hmoves⟩] at h
  cases h

end MemoryControl

namespace Bus

/-- The region which a store or load reaches. A misaligned one reaches none. -/
def target? (w : Width) (address : UInt32) : Option Region :=
  if w.aligns address then Region.find? (physical address) else none

/-- What a store touches, by the region it reaches. -/
def StoreTouches (bus : Bus) (w : Width) (address value : UInt32) (after : Bus) : Prop :=
  match target? w address with
  | none | some .bios | some .interruptControl | some .expansion1 | some .expansion2
  | some .timers | some .cdrom => after = bus
  | some .ram =>
    -- The bytes of the value, all of which are inside.
    let place := (physical address).toNat
    place + w.bytes ≤ Playstation.ramSize ∧
    ∃ ram, after = { bus with ram } ∧
      ∀ offset < Playstation.ramSize, ram.get offset =
        if place ≤ offset ∧ offset < place + w.bytes then wordByte value (offset - place)
        else bus.ram.get offset
  | some .dma =>
    -- The register, and what its write starts.
    after = bus ∨
    ∃ register dma, (Operation.store w address value).register? = some register ∧
      bus.dma.DiffersIn dma register ∧
      (after = { bus with dma } ∨
        ∃ port, register.port? = some port ∧ (dma.channel port).isActive = true ∧
          ({ bus with dma } : Bus).TransferTouches port after)
  | some .gpu => ∃ gpu, after = { bus with gpu }
  | some .spu => ∃ spu, after = { bus with spu }
  | some .memoryControl =>
    ∃ memoryControl, after = { bus with memoryControl } ∧
      ∀ (i : Nat) (hi : i < 9), i ≠ (Region.memoryControl.offsetOf (physical address)).toNat / 4 →
        memoryControl.registers[i] = bus.memoryControl.registers[i]
  | some .cacheControl => ∃ cacheControl, after = { bus with cacheControl }
  | some .ramSize => ∃ ramSize, after = { bus with ramSize }

/-- The boot ROM is the one plugged in at power on, and the registers which hold
the bases of the expansion windows hold them. -/
structure Fixed (bus : Bus) (bios : Bios) : Prop where
  /-- The boot ROM. -/
  bios : bus.bios = bios
  /-- The base of the first window. -/
  expansion1 : bus.memoryControl.registers[0] = 0x1f000000
  /-- The base of the second window. -/
  expansion2 : bus.memoryControl.registers[1] = 0x1f802000

variable {bus : Bus} {w : Width} {address value : UInt32}

/-- A store to the controller writes one register and runs at most the transfer
of the channel to which that register belongs. -/
theorem storeDma_touches (haligns : w.aligns address = true)
    (hregion : Region.find? (physical address) = some .dma) :
    (bus.store w address value).1 = bus ∨
    ∃ register dma, (Operation.store w address value).register? = some register ∧
      bus.dma.DiffersIn dma register ∧
      ((bus.store w address value).1 = { bus with dma } ∨
        ∃ port, register.port? = some port ∧ (dma.channel port).isActive = true ∧
          ({ bus with dma } : Bus).TransferTouches port (bus.store w address value).1) := by
  rw [store_of_dma haligns hregion]
  cases hregister : DmaRegister.ofOffset?
      (Region.dma.offsetOf (physical address) &&& 0xfffffffc) with
  | none =>
    rw [storeDma_of_no_register hregister]
    exact .inl rfl
  | some register =>
    obtain ⟨number, hrefused⟩ | ⟨word, dma, -, hwrite, hstore⟩ :=
      @storeDma_cases bus w (Region.dma.offsetOf (physical address)) value register hregister
    · rw [hrefused]
      exact .inl rfl
    · refine .inr ⟨register, dma,
        Operation.register?_store_eq_some.mpr ⟨⟨haligns, hregion⟩, hregister⟩,
        Dma.differsIn_write hwrite, ?_⟩
      rw [hstore]
      cases hready : dma.ready? register with
      | none => exact .inl rfl
      | some port =>
        obtain ⟨hport, hactive⟩ := Option.filter_eq_some_iff.mp hready
        exact .inr ⟨port, hport, hactive, touches_transfer _ port⟩

/-- Every store touches what its region says. -/
theorem store_touches (bus : Bus) (w : Width) (address value : UInt32) :
    bus.StoreTouches w address value (bus.store w address value).1 := by
  rw [StoreTouches, target?]
  by_cases haligns : w.aligns address = true
  · rw [if_pos haligns]
    cases hregion : Region.find? (physical address) with
    | none => rw [store, if_pos haligns, hregion]
    | some region =>
      cases region with
      | ram =>
        obtain ⟨hinside, segment, hplace⟩ := Segment.exists_address hregion
        refine ⟨fits_ram segment hinside (hplace ▸ haligns), _,
          congrArg Prod.fst (store_of_ram haligns hregion), fun offset hoffset => ?_⟩
        exact bus.ram.get_store w (physical address).toNat value hoffset
      | dma => exact storeDma_touches haligns hregion
      | memoryControl =>
        rw [store_of_region haligns hregion, storeRegion]
        dsimp only
        split
        · next control hstore =>
          refine ⟨control, rfl, fun i hi hother => ?_⟩
          rw [MemoryControl.getElem_store hstore i hi, if_neg (Ne.symm hother)]
        · exact ⟨_, rfl, fun _ _ _ => rfl⟩
      | gpu | spu | cacheControl | ramSize =>
        rw [store_of_region haligns hregion]
        exact ⟨_, rfl⟩
      | _ => rw [store_of_region haligns hregion, storeRegion]
  · rw [if_neg haligns, store, if_neg haligns]

/-- A store leaves the boot ROM. It leaves the memory control registers unless it
reaches one of them, and the graphics processor unless it reaches that or the DMA
controller. -/
theorem StoreTouches.keeps {after : Bus} (h : bus.StoreTouches w address value after) :
    after.bios = bus.bios ∧
      (target? w address ≠ some .memoryControl → after.memoryControl = bus.memoryControl) ∧
      (target? w address ≠ some .gpu → target? w address ≠ some .dma → after.gpu = bus.gpu) := by
  rw [StoreTouches] at h
  cases htarget : target? w address with
  | none =>
    rw [htarget] at h
    cases h
    exact ⟨rfl, fun _ => rfl, fun _ _ => rfl⟩
  | some region =>
    rw [htarget] at h
    cases region with
    | ram =>
      obtain ⟨-, ram, rfl, -⟩ := h
      exact ⟨rfl, fun _ => rfl, fun _ _ => rfl⟩
    | dma =>
      obtain rfl | ⟨register, dma, -, -, rfl | ⟨port, -, -, htouches⟩⟩ := h
      · exact ⟨rfl, fun _ => rfl, fun _ _ => rfl⟩
      · exact ⟨rfl, fun _ => rfl, fun _ _ => rfl⟩
      · obtain ⟨ram, gpu, dma, rfl⟩ := htouches.rest
        exact ⟨rfl, fun _ => rfl, fun _ hother => absurd rfl hother⟩
    | memoryControl =>
      obtain ⟨control, rfl, -⟩ := h
      exact ⟨rfl, fun hother => absurd rfl hother, fun _ _ => rfl⟩
    | gpu =>
      obtain ⟨gpu, rfl⟩ := h
      exact ⟨rfl, fun _ => rfl, fun hother => absurd rfl hother⟩
    | spu | cacheControl | ramSize =>
      obtain ⟨part, rfl⟩ := h
      exact ⟨rfl, fun _ => rfl, fun _ _ => rfl⟩
    | _ =>
      cases h
      exact ⟨rfl, fun _ => rfl, fun _ _ => rfl⟩

/-- A store, however narrow, leaves the windows where they are: a register which
would move one is refused as a whole. -/
theorem Fixed.store {bios : Bios} (h : bus.Fixed bios) (w : Width) (address value : UInt32) :
    (bus.store w address value).1.Fixed bios := by
  obtain ⟨hbios, hkept, -⟩ := (bus.store_touches w address value).keeps
  by_cases htarget : target? w address = some .memoryControl
  · obtain ⟨haligns, hregion⟩ := Option.ite_none_right_eq_some.mp htarget
    rw [store_of_region haligns hregion, storeRegion]
    split
    · next control hstore =>
      refine ⟨h.bios, ?_, ?_⟩
      · refine (MemoryControl.getElem_store hstore 0 (by decide)).trans ?_
        split
        · next hregister => exact MemoryControl.store_expansion1 hstore hregister
        · exact h.expansion1
      · refine (MemoryControl.getElem_store hstore 1 (by decide)).trans ?_
        split
        · next hregister => exact MemoryControl.store_expansion2 hstore hregister
        · exact h.expansion2
    · exact h
  · have hcontrol := hkept htarget
    exact ⟨hbios.trans h.bios, by rw [hcontrol]; exact h.expansion1,
      by rw [hcontrol]; exact h.expansion2⟩

/-- No operation touches them. -/
theorem Fixed.perform {bios : Bios} (h : bus.Fixed bios) (operation : Operation) :
    (bus.perform operation).1.Fixed bios := by
  cases operation with
  | load w address =>
    rw [perform_load]
    exact ⟨h.bios, h.expansion1, h.expansion2⟩
  | peek w address =>
    rw [perform_peek]
    exact h
  | store w address value => exact h.store w address value

/-- No sequence of operations touches them. -/
theorem Fixed.performAll {bios : Bios} (h : bus.Fixed bios) (operations : List Operation) :
    (bus.performAll operations).Fixed bios := by
  induction operations using List.reverseRecOn with
  | nil => exact h
  | append_singleton operations operation ih =>
    rw [performAll_concat]
    exact ih.perform operation

/-- A store touches the one component which its region selects: the bytes of its
value in main memory, one memory control register, one of the other kept
registers or one of the two processors. It touches nothing where nothing is
mapped, where it is misaligned, and in the regions which ignore stores. In the
window of the DMA controller it touches the register, and if that starts a
transfer, the graphics processor through its port, main memory through that of
the ordering table, and the two start flags and the interrupt flag of the
channel. In every run, the boot ROM is the one that was plugged in, and the
expansion windows are where they have been at power on. -/
theorem store_touches_one (bios : Bios) :
    (∀ (bus : Bus) (w : Width) (address value : UInt32),
      bus.StoreTouches w address value (bus.store w address value).1) ∧
    ∀ operations : List Cpu.Operation,
      ((Cpu.powerOn bios).operateAll operations).bus.Fixed bios := by
  refine ⟨store_touches, fun operations => ?_⟩
  obtain ⟨seen, hseen⟩ := (Cpu.powerOn bios).operates_operateAll operations
  have hstart : (powerOn bios).Fixed bios := ⟨rfl, rfl, rfl⟩
  rw [hseen]
  exact hstart.performAll seen

end Bus

end Playstation
