import Playstation.Proofs.Checked.Arithmetic

/-!
# Bytes of words

An address names a byte of the word around it, in physical memory as in the
segments which show it. Where a value is merged into a register or into a word
of memory, each bit of the result comes from one of the two. A narrow access
takes the bits of the bytes it covers from the value, and the store of the high
bytes of a misaligned word takes the bytes up to its address from the top of the
value.
-/

namespace Playstation

open MachineWord

/-- A field is determined by the bits inside it. -/
theorem bits_congr {x y : UInt32} {low high : Nat} (hle : low ≤ high) (hhigh : high < 32)
    (h : ∀ i, low ≤ i → i ≤ high → (toBits x).getLsbD i = (toBits y).getLsbD i) :
    bits x low high = bits y low high := by
  refine eq_of_getLsbD_eq fun i _ => ?_
  rw [getLsbD_bits _ hle hhigh, getLsbD_bits _ hle hhigh]
  by_cases hinside : i < high - low + 1
  · rw [h (low + i) (by omega) (by omega)]
  · simp only [hinside, decide_false, Bool.and_false]

/-- A word consists of its upper thirty bits and its two low ones. -/
theorem or_lowBits (x : UInt32) : (x &&& 0xfffffffc) ||| (x &&& 3) = x := by
  have hupper : (0xfffffffc : UInt32) = ~~~lowMask 2 := by decide
  have hlower : (3 : UInt32) = lowMask 2 := by decide
  refine eq_of_getLsbD_eq fun i hi => ?_
  rw [hupper, hlower, getLsbD_or, getLsbD_and, getLsbD_and, getLsbD_not, decide_eq_true hi,
    Bool.true_and, ← Bool.and_or_distrib_left, Bool.not_or_self, Bool.and_true]

/-- The upper thirty bits of a word are the multiple of four below it. -/
theorem toNat_upperBits (x : UInt32) : (x &&& 0xfffffffc).toNat = x.toNat / 4 * 4 := by
  have hfield := @toNat_and_field x 0xfffffffc 30 2 rfl
  have hbound := x.toNat_lt
  omega

/-- The two low bits of an address are physical. -/
theorem physical_lowBits (address : UInt32) : physical address &&& 3 = address &&& 3 := by
  have hkept : segmentMask address &&& 3 = 3 := by
    rw [segmentMask]
    split <;> decide
  rw [physical, UInt32.and_assoc, hkept]

/-- The word around an address is at the physical word around it. -/
theorem physical_word (address : UInt32) :
    physical (address &&& 0xfffffffc) = physical address &&& 0xfffffffc := by
  have hsegment : (address &&& 0xfffffffc) >>> 29 = address >>> 29 := by
    rw [UInt32.shiftRight_and, ← UInt32.toNat_inj, UInt32.toNat_and]
    change (address >>> 29).toNat &&& (2 ^ 3 - 1) = _
    rw [Nat.and_two_pow_sub_one_eq_mod, Nat.mod_eq_of_lt (toNat_segment_lt address)]
  rw [physical, physical, segmentMask, segmentMask, hsegment, UInt32.and_assoc, UInt32.and_assoc,
    UInt32.and_comm 0xfffffffc]

/-- The distance of a byte as a number. -/
theorem toNat_byteShift (offset : UInt32) :
    (byteShift offset).toNat = 8 * (offset &&& 3).toNat := by
  have hlow := toNat_lowBits_le offset
  have hmul : (byteShift offset).toNat = 8 * (offset &&& 3).toNat % 2 ^ 32 := UInt32.toNat_mul _ _
  omega

/-- The largest value of a width is one less than its power of two. -/
theorem Width.toNat_allOnes (w : Width) : w.allOnes.toNat = 2 ^ w.bitCount - 1 := by
  cases w <;> rfl

/-- A width is a number of bytes of eight bits. -/
theorem Width.two_pow_bitCount (w : Width) : 2 ^ w.bitCount = 256 ^ w.bytes := by
  cases w <;> rfl

/-- The part of a register which a load sees consists of the bytes which the address
names. -/
theorem toNat_narrow (w : Width) (value offset : UInt32) :
    (narrow w value offset).toNat =
      value.toNat / 256 ^ (offset.toNat % 4) % 256 ^ w.bytes := by
  have hlow : (offset &&& 3).toNat = offset.toNat % 4 := @toNat_and_mask offset 3 2 rfl
  have hinside : 8 * (offset.toNat % 4) < 32 := by omega
  have hpower : 2 ^ (8 * (offset.toNat % 4)) = 256 ^ (offset.toNat % 4) := Nat.pow_mul 2 8 _
  rw [narrow, toNat_and_mask _ w.toNat_allOnes, w.two_pow_bitCount, UInt32.toNat_shiftRight,
    Nat.shiftRight_eq_div_pow, toNat_byteShift, hlow, Nat.mod_eq_of_lt hinside, hpower]

/-- The bits of a word moved up. -/
theorem getLsbD_shiftLeft {amount : UInt32} (x : UInt32) (hamount : amount.toNat < 32) {i : Nat}
    (hi : i < 32) :
    (toBits (x <<< amount)).getLsbD i =
      (decide (amount.toNat ≤ i) && (toBits x).getLsbD (i - amount.toNat)) := by
  have hback : amount.toNat.toUInt32 = amount := UInt32.ofNat_toNat
  have hshift : x <<< amount = shiftUp x amount.toNat := by
    change _ = x <<< amount.toNat.toUInt32
    rw [hback]
  have hwidth : i < width UInt32 := hi
  rw [hshift, toBits_shiftUp _ _ hamount, BitVec.getLsbD_shiftLeft]
  by_cases hle : amount.toNat ≤ i
  · simp [hwidth, hle]
  · simp [hle, show i < amount.toNat by omega]

/-- The bits of a word moved down. -/
theorem getLsbD_shiftRight {amount : UInt32} (x : UInt32) (hamount : amount.toNat < 32) (i : Nat) :
    (toBits (x >>> amount)).getLsbD i = (toBits x).getLsbD (amount.toNat + i) := by
  have hback : amount.toNat.toUInt32 = amount := UInt32.ofNat_toNat
  have hshift : x >>> amount = shiftDown x amount.toNat := by
    change _ = x >>> amount.toNat.toUInt32
    rw [hback]
  rw [hshift, toBits_shiftDown _ _ hamount, BitVec.getLsbD_ushiftRight]

/-- The largest value of a width has its low bits set. -/
theorem getLsbD_allOnes (w : Width) (i : Nat) :
    (toBits w.allOnes).getLsbD i = decide (i < w.bitCount) := by
  have hmask : w.allOnes = lowMask w.bitCount := by
    cases w <;> decide
  rw [hmask, getLsbD_lowMask (by cases w <;> decide) (by cases w <;> decide)]

/-- A narrow access replaces the bits of the bytes it covers. -/
theorem getLsbD_merge {w : Width} (hw : w ≠ .word) (old value offset : UInt32) {i : Nat}
    (hi : i < 32) :
    (toBits (merge w old value offset)).getLsbD i =
      if (byteShift offset).toNat ≤ i ∧ i < (byteShift offset).toNat + w.bitCount then
        (toBits value).getLsbD (i - (byteShift offset).toNat)
      else (toBits old).getLsbD i := by
  have hshift := toNat_byteShift_lt offset
  have hmerge : merge w old value offset =
      (old &&& ~~~(w.allOnes <<< byteShift offset)) |||
        (value <<< byteShift offset &&& w.allOnes <<< byteShift offset) := by
    cases w with
    | byte | half => rfl
    | word => exact absurd rfl hw
  rw [hmerge, getLsbD_or, getLsbD_and, getLsbD_and, getLsbD_not, getLsbD_shiftLeft _ hshift hi,
    getLsbD_shiftLeft _ hshift hi, getLsbD_allOnes]
  have hwidth : i < width UInt32 := hi
  by_cases hlow : (byteShift offset).toNat ≤ i
  · by_cases hhigh : i < (byteShift offset).toNat + w.bitCount
    · simp [hlow, hhigh, show i - (byteShift offset).toNat < w.bitCount by omega]
    · simp [hlow, hhigh, hwidth, show ¬i - (byteShift offset).toNat < w.bitCount by omega]
  · simp [hlow, hwidth]

/-- A value which is moved down into the low end of a word replaces the bits up
to the top of a byte. -/
theorem getLsbD_lowEnd {distance : UInt32} (hdistance : distance.toNat ≤ 24) (old value : UInt32)
    {i : Nat} (hi : i < 32) :
    (toBits ((old &&& (0xffffff00 : UInt32) <<< distance) |||
        value >>> (24 - distance))).getLsbD i =
      if i < distance.toNat + 8 then (toBits value).getLsbD (24 - distance.toNat + i)
      else (toBits old).getLsbD i := by
  have hrest : ((24 : UInt32) - distance).toNat = 24 - distance.toNat := by
    refine UInt32.toNat_sub_of_le _ _ ?_
    rw [UInt32.le_iff_toNat_le]
    exact hdistance
  have hmask : (0xffffff00 : UInt32) = ~~~lowMask 8 := by decide
  have hwidth : i - distance.toNat < MachineWord.width UInt32 :=
    Nat.lt_of_le_of_lt (Nat.sub_le _ _) hi
  rw [getLsbD_or, getLsbD_and, getLsbD_shiftLeft _ (by omega) hi,
    getLsbD_shiftRight _ (by omega), hrest, hmask, getLsbD_not,
    getLsbD_lowMask (by decide) (by decide)]
  by_cases hcovered : i < distance.toNat + 8
  · simp [hcovered, show i - distance.toNat < 8 by omega]
  · have hbeyond : (toBits value).getLsbD (24 - distance.toNat + i) = false :=
      BitVec.getLsbD_of_ge _ _ (show 32 ≤ _ by omega)
    simp [hcovered, hbeyond, hwidth, show distance.toNat ≤ i by omega,
      show ¬i - distance.toNat < 8 by omega]

/-- A value which is moved up into the high end of a word replaces the bits from
there on. -/
theorem getLsbD_highEnd {distance : UInt32} (hdistance : distance.toNat ≤ 24) (old value : UInt32)
    {i : Nat} (hi : i < 32) :
    (toBits ((old &&& (0x00ffffff : UInt32) >>> (24 - distance)) |||
        value <<< distance)).getLsbD i =
      if distance.toNat ≤ i then (toBits value).getLsbD (i - distance.toNat)
      else (toBits old).getLsbD i := by
  have hrest : ((24 : UInt32) - distance).toNat = 24 - distance.toNat := by
    refine UInt32.toNat_sub_of_le _ _ ?_
    rw [UInt32.le_iff_toNat_le]
    exact hdistance
  have hmask : (0x00ffffff : UInt32) = lowMask 24 := by decide
  rw [getLsbD_or, getLsbD_and, getLsbD_shiftRight _ (by omega), getLsbD_shiftLeft _ (by omega) hi,
    hrest, hmask, getLsbD_lowMask (by decide) (by decide)]
  by_cases hcovered : distance.toNat ≤ i
  · simp [hcovered, show ¬24 - distance.toNat + i < 24 by omega]
  · simp [hcovered, show 24 - distance.toNat + i < 24 by omega]

/-- The high bytes of a misaligned word are put at the low end of the word in
memory, up to the address. -/
theorem StoreOp.getLsbD_combine_swl (address old value : UInt32) {i : Nat} (hi : i < 32) :
    (toBits (StoreOp.swl.combine address old value)).getLsbD i =
      if i < (byteShift address).toNat + 8 then
        (toBits value).getLsbD (24 - (byteShift address).toNat + i)
      else (toBits old).getLsbD i := by
  have hshift := toNat_byteShift address
  have hlow := toNat_lowBits_le address
  exact getLsbD_lowEnd (by omega) old value hi

end Playstation
