import Playstation.Bus.Access

/-!
# Accesses by region

An aligned access goes to the region of its address. The only loads that are
refused are those where nothing is mapped and those where the DMA controller
has no register, whatever the state of the bus; and the only loads that change
the bus are those from the graphics processor, which is all they change.
-/

namespace Playstation

namespace Bus

variable {bus : Bus} {w : Width} {address : UInt32} {region : Region}

/-- An aligned peek shows what the region of the address shows. -/
theorem peek_of_region (haligns : w.aligns address = true)
    (hregion : Region.find? (physical address) = some region) :
    bus.peek w address = bus.peekRegion w region (physical address) := by
  rw [peek, if_pos haligns, hregion]

/-- An aligned store goes to the region of the address. -/
theorem store_of_region {value : UInt32} (haligns : w.aligns address = true)
    (hregion : Region.find? (physical address) = some region) :
    bus.store w address value = bus.storeRegion w region (physical address) value := by
  rw [store, if_pos haligns, hregion]

/-- The graphics processor is all that can notice a load. -/
theorem notice_eq_withGpu (bus : Bus) (w : Width) (address : UInt32) :
    bus.notice w address = { bus with gpu := (bus.notice w address).gpu } := by
  rw [notice]
  split <;> rfl

/-- Other regions do not notice loads. -/
theorem notice_of_region (hregion : Region.find? (physical address) = some region)
    (hgpu : region ≠ .gpu) : bus.notice w address = bus := by
  have hquiet : (Region.find? (physical address) == some .gpu) = false := by
    rw [hregion, beq_eq_false_iff_ne]
    exact fun h => hgpu (Option.some.inj h)
  rw [notice, readsImage, hquiet, Bool.and_false, Bool.false_and]
  rfl

/-- Why an aligned load from an address is refused, if it is. -/
def refusal? (address : UInt32) : Option BusFault :=
  match Region.find? (physical address) with
  | none => some (.unmapped (physical address))
  | some .dma =>
    let register := Region.dma.offsetOf (physical address) &&& 0xfffffffc
    match DmaRegister.ofOffset? register with
    | none => some (.dma (.invalidRegister register))
    | some _ => none
  | some _ => none

/-- A load which is refused is refused for this reason. -/
theorem peek_of_refusal {fault : BusFault} (haligns : w.aligns address = true)
    (h : refusal? address = some fault) : bus.peek w address = .error fault := by
  rw [refusal?] at h
  rw [peek, if_pos haligns]
  cases hregion : Region.find? (physical address) with
  | none =>
    rw [hregion] at h
    cases h
    rfl
  | some region =>
    rw [hregion] at h
    cases region with
    | dma =>
      cases hregister : DmaRegister.ofOffset?
          (Region.dma.offsetOf (physical address) &&& 0xfffffffc) with
      | none =>
        simp only [hregister, Option.some.injEq] at h
        simp only [peekRegion, Dma.load, hregister, h]
      | some register =>
        simp only [hregister] at h
        cases h
    | _ => cases h

/-- A load with no reason to be refused has a value. -/
theorem exists_peek_of_no_refusal (haligns : w.aligns address = true)
    (h : refusal? address = none) : ∃ value, bus.peek w address = .ok value := by
  rw [refusal?] at h
  cases hregion : Region.find? (physical address) with
  | none =>
    rw [hregion] at h
    cases h
  | some region =>
    rw [peek_of_region haligns hregion]
    rw [hregion] at h
    cases region with
    | dma =>
      cases hregister : DmaRegister.ofOffset?
          (Region.dma.offsetOf (physical address) &&& 0xfffffffc) with
      | none =>
        simp only [hregister] at h
        cases h
      | some register =>
        simp only [peekRegion, Dma.load, hregister]
        exact ⟨_, rfl⟩
    | _ => exact ⟨_, rfl⟩

end Bus

end Playstation
