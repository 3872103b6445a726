import Playstation.Memory
import Playstation.Proofs.Checked.Address

/-!
# Segments

Three segments of the address space show the same physical memory, the first
of them from address zero on and the others each from an address of its own.
The main statements are that an address of a segment names the byte of physical
memory it is made from, and that main memory is addressed through one of the
three and in no other way.
-/

namespace Playstation

/-- The physical address as a number, by the number of the segment. -/
theorem toNat_physical (address : UInt32) :
    (physical address).toNat =
      if address.toNat / 2 ^ 29 = 4 then address.toNat % 2 ^ 31
      else if address.toNat / 2 ^ 29 = 5 then address.toNat % 2 ^ 29
      else address.toNat := by
  have hnumber : (address >>> 29).toNat = address.toNat / 2 ^ 29 := by
    rw [UInt32.toNat_shiftRight]
    exact Nat.shiftRight_eq_div_pow _ 29
  rw [physical, segmentMask, hnumber]
  split
  · next hcached =>
    rw [if_pos hcached]
    exact @toNat_and_mask address 0x7fffffff 31 rfl
  · next huncached =>
    rw [if_neg (by omega), if_pos huncached]
    exact @toNat_and_mask address 0x1fffffff 29 rfl
  · next hcached huncached =>
    rw [if_neg hcached, if_neg huncached, @toNat_and_mask address 0xffffffff 32 rfl,
      Nat.mod_eq_of_lt address.toNat_lt]

/-- The segments which show physical memory from its start on. -/
inductive Segment where
  /-- The lower half of the address space, for user programs. -/
  | user
  /-- The segment of the kernel which is seen through the cache. -/
  | cached
  /-- The segment of the kernel which is seen past the cache. -/
  | uncached
  deriving DecidableEq

namespace Segment

/-- Every segment. -/
def all : List Segment := [user, cached, uncached]

/-- Where a segment shows the start of physical memory. -/
def base : Segment → UInt32
  | user => 0
  | cached => 0x80000000
  | uncached => 0xa0000000

/-- Where a segment shows a byte of physical memory. -/
def address (segment : Segment) (offset : Nat) : UInt32 := segment.base + UInt32.ofNat offset

variable {segment : Segment} {offset : Nat}

/-- There are no other segments. -/
theorem mem_all (segment : Segment) : segment ∈ all := by
  cases segment <;> decide

/-- Segments end below the end of the address space. -/
theorem toNat_address (segment : Segment) (h : offset < 0x20000000) :
    (segment.address offset).toNat = segment.base.toNat + offset := by
  have hbase : segment.base.toNat ≤ 0xa0000000 := by
    cases segment <;> decide
  rw [address, UInt32.toNat_add, UInt32.toNat_ofNat']
  omega

/-- The address names the byte of physical memory. -/
theorem toNat_physical_address (segment : Segment) (h : offset < 0x20000000) :
    (physical (segment.address offset)).toNat = offset := by
  have hbase : segment.base.toNat = 0 ∨ segment.base.toNat = 0x80000000 ∨
      segment.base.toNat = 0xa0000000 := by
    cases segment <;> decide
  rw [toNat_physical, segment.toNat_address h]
  split
  · omega
  · split <;> omega

/-- Main memory begins at the start of physical memory. -/
theorem find?_address (segment : Segment) (h : offset < ramSize) :
    Region.find? (physical (segment.address offset)) = some .ram := by
  have hphysical := segment.toNat_physical_address (Nat.lt_trans h (by decide))
  generalize physical (segment.address offset) = place at hphysical
  have hbios : Region.bios.range.contains place = false := by
    rw [AddressRange.contains, Bool.and_eq_false_iff, decide_eq_false_iff_not,
      UInt32.le_iff_toNat_le, hphysical]
    refine .inl fun hle => ?_
    change 0x1fc00000 ≤ offset at hle
    unfold ramSize at h
    omega
  have hram : Region.ram.range.contains place = true := by
    rw [AddressRange.contains, Bool.and_eq_true, decide_eq_true_eq, decide_eq_true_eq]
    refine ⟨UInt32.zero_le, ?_⟩
    change place - 0 < 0x200000
    rw [UInt32.sub_zero, UInt32.lt_iff_toNat_lt, hphysical]
    exact h
  rw [Region.find?, Region.all, List.find?_cons, hbios]
  exact List.find?_cons_of_pos hram

/-- Main memory is addressed through one of the segments. -/
theorem exists_address {address : UInt32} (h : Region.find? (physical address) = some .ram) :
    (physical address).toNat < ramSize ∧
      ∃ segment : Segment, address = segment.address (physical address).toNat := by
  have hsize : (physical address).toNat < ramSize := by
    obtain ⟨hoffset, -, hlt⟩ := Region.toNat_offsetOf (Region.contains_of_find? h)
    rw [hoffset] at hlt
    exact hlt
  have hfits : (physical address).toNat < 0x20000000 := Nat.lt_trans hsize (by decide)
  have hbound := address.toNat_lt
  have hplace := toNat_physical address
  unfold ramSize at hsize
  refine ⟨hsize, ?_⟩
  split at hplace
  · refine ⟨cached, UInt32.toNat_inj.mp ?_⟩
    rw [toNat_address _ hfits]
    change address.toNat = 0x80000000 + _
    omega
  · split at hplace
    · refine ⟨uncached, UInt32.toNat_inj.mp ?_⟩
      rw [toNat_address _ hfits]
      change address.toNat = 0xa0000000 + _
      omega
    · refine ⟨user, UInt32.toNat_inj.mp ?_⟩
      rw [toNat_address _ hfits]
      change address.toNat = 0 + _
      omega

end Segment

end Playstation
