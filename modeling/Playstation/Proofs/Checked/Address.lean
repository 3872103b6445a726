import Mathlib.Tactic.IntervalCases
import Playstation.Address
import Playstation.Width
import Playstation.Proofs.Checked.Word

/-!
# Checked addresses

The way from an address to a region and an offset in it, and from a register
to the part of it which an access sees, with the table of segments, every
difference and every shift checked. An aligned access to a window whose ends
are multiples of four stays inside the window.
-/

namespace Playstation

open MachineWord

/-- The address bits kept in each of the eight segments. -/
def segmentMasks : Vector UInt32 8 :=
  #v[0xffffffff, 0xffffffff, 0xffffffff, 0xffffffff, 0x7fffffff, 0x1fffffff, 0xffffffff,
    0xffffffff]

/-- The physical address, by the table of segments. -/
def checkedPhysical (address : UInt32) : Option UInt32 := do
  let segment ← checkedShiftDown address 29
  let mask ← segmentMasks[segment.toNat]?
  return address &&& mask

/-- Distance of an address from the start of a window, if it lies inside. -/
def AddressRange.checkedOffset (range : AddressRange) (address : UInt32) :
    Option (Option UInt32) :=
  if range.start ≤ address then do
    let distance ← checkedSub address range.start
    if distance < range.length then return some (← checkedSub address range.start)
    else return none
  else some none

/-- The first of some regions whose window contains an address, with the offset
there. -/
def Region.checkedFindIn (address : UInt32) : List Region → Option (Option (Region × UInt32))
  | [] => some none
  | region :: regions => do
    match ← region.range.checkedOffset address with
    | some offset => return some (region, offset)
    | none => checkedFindIn address regions

/-- The region of an address, with the offset there. -/
def Region.checkedFind (address : UInt32) : Option (Option (Region × UInt32)) :=
  checkedFindIn address all

/-- How far the byte at an offset is from bit zero of its register. -/
def checkedByteShift (offset : UInt32) : Option UInt32 := checkedMul 8 (offset &&& 3)

/-- The part of a register which a load sees. -/
def checkedNarrow (w : Width) (value offset : UInt32) : Option UInt32 := do
  let distance ← checkedByteShift offset
  let moved ← checkedShiftDown value distance.toNat
  match w with
  | .word => return moved
  | w => checkedBits moved 0 (8 * w.bytes - 1)

/-- A stored value moved to its place in a register. -/
def checkedWiden (value offset : UInt32) : Option UInt32 := do
  let distance ← checkedByteShift offset
  checkedShiftUp value distance.toNat

/-- The largest value of a width. -/
def Width.checkedAllOnes (w : Width) : Option UInt32 :=
  checkedShiftDown 0xffffffff (32 - 8 * w.bytes)

/-- A register after a store. -/
def checkedMerge (w : Width) (old value offset : UInt32) : Option UInt32 :=
  match w with
  | .word => some value
  | w => do
    let ones ← w.checkedAllOnes
    let distance ← checkedByteShift offset
    let mask ← checkedShiftUp ones distance.toNat
    let moved ← checkedWiden value offset
    return (old &&& ~~~mask) ||| (moved &&& mask)

/-- The upper three bits of a word are a number below eight. -/
theorem toNat_segment_lt (address : UInt32) : (address >>> 29).toNat < 8 := by
  have hbound := address.toNat_lt
  rw [UInt32.toNat_shiftRight]
  change address.toNat >>> 29 < 8
  rw [Nat.shiftRight_eq_div_pow]
  omega

/-- Every address has a physical one. -/
theorem checkedPhysical_eq (address : UInt32) :
    checkedPhysical address = some (physical address) := by
  have hmask : segmentMasks[(address >>> 29).toNat]? = some (segmentMask address) := by
    rw [segmentMask]
    generalize hsegment : (address >>> 29).toNat = segment
    have hlt : segment < 8 := hsegment ▸ toNat_segment_lt address
    interval_cases segment <;> rfl
  have hshift : checkedShiftDown address 29 = some (address >>> 29) := rfl
  rw [checkedPhysical, hshift]
  simp only [Option.bind_eq_bind, Option.bind_some, hmask]
  rfl

/-- No difference is negative where the offset in a window is taken. -/
theorem AddressRange.checkedOffset_eq (range : AddressRange) (address : UInt32) :
    range.checkedOffset address = some (range.offset? address) := by
  rw [checkedOffset, offset?, contains]
  by_cases hstart : range.start ≤ address
  · simp only [hstart, if_true, checkedSub_eq hstart, decide_true, Bool.true_and,
      decide_eq_true_eq, Option.bind_eq_bind, Option.bind_some]
    split <;> rfl
  · simp only [hstart, if_false, decide_false, Bool.false_and, Bool.false_eq_true]

/-- The first window is found. -/
theorem Region.checkedFindIn_eq (address : UInt32) (regions : List Region) :
    checkedFindIn address regions =
      some ((regions.find? fun region => region.range.contains address).map
        fun region => (region, region.offsetOf address)) := by
  induction regions with
  | nil => rfl
  | cons region regions ih =>
    rw [checkedFindIn, AddressRange.checkedOffset_eq, AddressRange.offset?, List.find?_cons]
    cases hcontains : region.range.contains address with
    | true => rfl
    | false => exact ih

/-- Every address has at most one region. -/
theorem Region.checkedFind_eq (address : UInt32) :
    checkedFind address = some ((find? address).map fun region =>
      (region, region.offsetOf address)) :=
  checkedFindIn_eq address all

/-- The region that is found has a window around the address. -/
theorem Region.contains_of_find? {region : Region} {address : UInt32}
    (h : find? address = some region) : region.range.contains address = true :=
  @List.find?_some _ (fun region : Region => region.range.contains address) _ _ h

/-- The two low bits of an address are a number up to three. -/
theorem toNat_lowBits_le (address : UInt32) : (address &&& 3).toNat ≤ 3 := by
  rw [UInt32.toNat_and]
  exact Nat.and_le_right

/-- A byte is at most three bytes away from the start of its register. -/
theorem toNat_byteShift_lt (offset : UInt32) : (byteShift offset).toNat < 32 := by
  have hlow := toNat_lowBits_le offset
  have hmul : (byteShift offset).toNat = 8 * (offset &&& 3).toNat % 2 ^ 32 := UInt32.toNat_mul _ _
  omega

/-- The distance of a byte fits into a word. -/
theorem checkedByteShift_eq (offset : UInt32) :
    checkedByteShift offset = some (byteShift offset) := by
  apply checkedMul_eq
  have hlow := toNat_lowBits_le offset
  have height : (8 : UInt32).toNat = 8 := rfl
  rw [height]
  omega

/-- A word moved down to one of its bytes. -/
theorem checkedShiftDown_byteShift (value offset : UInt32) :
    checkedShiftDown value (byteShift offset).toNat = some (value >>> byteShift offset) := by
  have hback : (byteShift offset).toNat.toUInt32 = byteShift offset := UInt32.ofNat_toNat
  rw [checkedShiftDown_eq _ (toNat_byteShift_lt offset)]
  change some (value >>> (byteShift offset).toNat.toUInt32) = _
  rw [hback]

/-- A word moved up to one of its bytes. -/
theorem checkedShiftUp_byteShift (value offset : UInt32) :
    checkedShiftUp value (byteShift offset).toNat = some (value <<< byteShift offset) := by
  have hback : (byteShift offset).toNat.toUInt32 = byteShift offset := UInt32.ofNat_toNat
  rw [checkedShiftUp_eq _ (toNat_byteShift_lt offset)]
  change some (value <<< (byteShift offset).toNat.toUInt32) = _
  rw [hback]

/-- Every part of a register can be read. -/
theorem checkedNarrow_eq (w : Width) (value offset : UInt32) :
    checkedNarrow w value offset = some (narrow w value offset) := by
  rw [checkedNarrow, checkedByteShift_eq]
  simp only [Option.bind_eq_bind, Option.bind_some, checkedShiftDown_byteShift]
  rw [narrow]
  cases w with
  | byte =>
    have hmask : (lowMask 8 : UInt32) = 0xff := by decide
    have hbits (x : UInt32) : bits x 0 7 = x &&& 0xff := by
      change (x >>> 0) &&& lowMask 8 = _
      rw [UInt32.shiftRight_zero, hmask]
    exact (checkedBits_eq _ (by decide) (by decide)).trans (congrArg some (hbits _))
  | half =>
    have hmask : (lowMask 16 : UInt32) = 0xffff := by decide
    have hbits (x : UInt32) : bits x 0 15 = x &&& 0xffff := by
      change (x >>> 0) &&& lowMask 16 = _
      rw [UInt32.shiftRight_zero, hmask]
    exact (checkedBits_eq _ (by decide) (by decide)).trans (congrArg some (hbits _))
  | word =>
    have hones (x : UInt32) : x &&& 0xffffffff = x := UInt32.and_neg_one
    exact congrArg some (hones _).symm

/-- Every value can be moved to its place in a register. -/
theorem checkedWiden_eq (value offset : UInt32) :
    checkedWiden value offset = some (widen value offset) := by
  rw [checkedWiden, checkedByteShift_eq]
  exact checkedShiftUp_byteShift value offset

/-- Every width has a largest value. -/
theorem Width.checkedAllOnes_eq (w : Width) : w.checkedAllOnes = some w.allOnes := by
  cases w <;> decide

/-- Every part of a register can be replaced. -/
theorem checkedMerge_eq (w : Width) (old value offset : UInt32) :
    checkedMerge w old value offset = some (merge w old value offset) := by
  cases w with
  | word => rfl
  | byte | half =>
    simp only [checkedMerge, Width.checkedAllOnes_eq, checkedByteShift_eq, checkedWiden_eq,
      Option.bind_eq_bind, Option.bind_some, checkedShiftUp_byteShift]
    rfl

/-- An aligned address is a multiple of the width. -/
theorem Width.aligns_iff (w : Width) (address : UInt32) :
    w.aligns address = true ↔ address.toNat % w.bytes = 0 := by
  cases w with
  | byte =>
    simp only [aligns, bytes, Nat.mod_one]
  | half =>
    rw [aligns, beq_iff_eq, ← UInt32.toNat_inj, UInt32.toNat_and]
    change address.toNat &&& 1 = 0 ↔ address.toNat % 2 = 0
    rw [Nat.and_one_is_mod]
  | word =>
    rw [aligns, beq_iff_eq, ← UInt32.toNat_inj, UInt32.toNat_and]
    change address.toNat &&& (2 ^ 2 - 1) = 0 ↔ address.toNat % 4 = 0
    rw [Nat.and_two_pow_sub_one_eq_mod]

/-- The physical address is aligned as the virtual one is. -/
theorem Width.aligns_physical (w : Width) (address : UInt32) :
    w.aligns (physical address) = w.aligns address := by
  have hkept : segmentMask address &&& 3 = 3 ∧ segmentMask address &&& 1 = 1 := by
    rw [segmentMask]
    split <;> decide
  cases w with
  | byte => rfl
  | half => rw [aligns, aligns, physical, UInt32.and_assoc, hkept.2]
  | word => rw [aligns, aligns, physical, UInt32.and_assoc, hkept.1]

/-- An address is inside if it is as many bytes behind the start. -/
theorem AddressRange.contains_iff (range : AddressRange) (address : UInt32) :
    range.contains address = true ↔
      range.start.toNat ≤ address.toNat ∧
        address.toNat - range.start.toNat < range.length.toNat := by
  rw [contains, Bool.and_eq_true, decide_eq_true_eq, decide_eq_true_eq, UInt32.lt_iff_toNat_lt]
  constructor
  · rintro ⟨hle, hlt⟩
    rw [UInt32.toNat_sub_of_le _ _ hle] at hlt
    exact ⟨UInt32.le_iff_toNat_le.mp hle, hlt⟩
  · rintro ⟨hle, hlt⟩
    have hstart := UInt32.le_iff_toNat_le.mpr hle
    rw [UInt32.toNat_sub_of_le _ _ hstart]
    exact ⟨hstart, hlt⟩

/-- The offset of an address in its window is a plain difference. -/
theorem Region.toNat_offsetOf {region : Region} {address : UInt32}
    (h : region.range.contains address = true) :
    (region.offsetOf address).toNat = address.toNat - region.range.start.toNat ∧
      region.range.start.toNat ≤ address.toNat ∧
      (region.offsetOf address).toNat < region.range.length.toNat := by
  rw [AddressRange.contains, Bool.and_eq_true, decide_eq_true_eq, decide_eq_true_eq] at h
  exact ⟨UInt32.toNat_sub_of_le _ _ h.1, UInt32.le_iff_toNat_le.mp h.1,
    UInt32.lt_iff_toNat_lt.mp h.2⟩

/-- An aligned access to a window whose ends are multiples of four stays
inside. -/
theorem Region.offset_fits {region : Region} {w : Width} {address : UInt32}
    (h : region.range.contains address = true) (haligns : w.aligns address = true)
    (hstart : region.range.start.toNat % 4 = 0) (hlength : region.range.length.toNat % 4 = 0) :
    (region.offsetOf address).toNat + w.bytes ≤ region.range.length.toNat := by
  obtain ⟨hoffset, hle, hlt⟩ := toNat_offsetOf h
  rw [Width.aligns_iff] at haligns
  cases w with
  | byte => exact hlt
  | half =>
    rw [Width.bytes] at haligns ⊢
    omega
  | word =>
    rw [Width.bytes] at haligns ⊢
    omega

end Playstation
