import Playstation.Proofs.Bytes
import Playstation.Proofs.Segment
import Playstation.Proofs.Width

/-!
# The two ends of a misaligned word

A word at an address which is no multiple of four lies in two words of memory.
There is one pair of instructions for its loads and one for its stores, and each
instruction moves the bytes at one end of it. The main statements say this byte
by byte: a load takes the bytes of its end from memory and keeps the others of
its target, a store puts the bytes of its end into memory and keeps the others
there, and each byte is at one end or the other.
-/

namespace Playstation

open MachineWord

section Bytes

variable {x y old value distance : UInt32} {d k m : Nat}

/-- The bits of one byte of a word. -/
theorem getLsbD_wordByte (value : UInt32) (hk : k < 4) {i : Nat} (hi : i < 8) :
    (toBits (wordByte value k)).getLsbD i = (toBits value).getLsbD (8 * k + i) := by
  have hamount : (8 * UInt32.ofNat k).toNat = 8 * k := by
    have height : (8 : UInt32).toNat = 8 := rfl
    rw [UInt32.toNat_mul, UInt32.toNat_ofNat', height]
    omega
  change ((toBits (value >>> (8 * UInt32.ofNat k))).setWidth 8).getLsbD i = _
  rw [BitVec.getLsbD_setWidth, getLsbD_shiftRight _ (by omega), hamount, decide_eq_true hi,
    Bool.true_and]

/-- A byte is determined by its bits. -/
theorem wordByte_congr (hk : k < 4) (hm : m < 4)
    (h : ∀ i < 8, (toBits x).getLsbD (8 * k + i) = (toBits y).getLsbD (8 * m + i)) :
    wordByte x k = wordByte y m := by
  refine eq_of_getLsbD_eq fun i hi => ?_
  rw [getLsbD_wordByte _ hk hi, getLsbD_wordByte _ hm hi]
  exact h i hi

/-- A word is determined by its bytes. -/
theorem eq_of_wordByte (h : ∀ k < 4, wordByte x k = wordByte y k) : x = y := by
  refine eq_of_getLsbD_eq fun i hi => ?_
  have hi : i < 32 := hi
  have hbyte := congrArg (fun byte => (toBits byte).getLsbD (i % 8)) (h (i / 8) (by omega))
  simp only [getLsbD_wordByte _ (show i / 8 < 4 by omega) (Nat.mod_lt i (by decide)),
    Nat.div_add_mod] at hbyte
  exact hbyte

/-- One byte of a word as a number. -/
theorem toNat_wordByte (value : UInt32) (hk : k < 4) :
    (wordByte value k).toNat = value.toNat / 256 ^ k % 256 := by
  have hamount : (8 * UInt32.ofNat k).toNat % 32 = 8 * k := by
    have height : (8 : UInt32).toNat = 8 := rfl
    rw [UInt32.toNat_mul, UInt32.toNat_ofNat', height]
    omega
  have hpower : 256 ^ k = 2 ^ (8 * k) := Nat.pow_mul 2 8 k |>.symm
  rw [wordByte, UInt32.toNat_toUInt8, UInt32.toNat_shiftRight, hamount, Nat.shiftRight_eq_div_pow,
    hpower]

/-- The bytes of a loaded word are those in memory. -/
theorem wordByte_load {size : Nat} (memory : Bytes size) (offset : Nat) (hk : k < 4) :
    wordByte (memory.load .word offset) k = memory.get (offset + k) := by
  have hbounds (i : Nat) := (memory.get (offset + i)).toNat_lt
  have h0 := hbounds 0
  have h1 := hbounds 1
  have h2 := hbounds 2
  have h3 := hbounds 3
  have hload : (memory.load .word offset).toNat =
      Nat.ofDigits 256 [(memory.get (offset + 0)).toNat, (memory.get (offset + 1)).toNat,
        (memory.get (offset + 2)).toNat, (memory.get (offset + 3)).toNat] := memory.toNat_load _ _
  rw [Nat.ofDigits_cons, Nat.ofDigits_cons, Nat.ofDigits_cons, Nat.ofDigits_singleton] at hload
  apply UInt8.toNat_inj.mp
  rw [toNat_wordByte _ hk, hload]
  obtain rfl | rfl | rfl | rfl : k = 0 ∨ k = 1 ∨ k = 2 ∨ k = 3 := by omega
  all_goals omega

/-- The bytes of a word into whose low end a value is moved down. -/
theorem wordByte_lowEnd (hdistance : distance.toNat = 8 * d) (hd : d ≤ 3) (hk : k < 4) :
    wordByte ((old &&& (0xffffff00 : UInt32) <<< distance) ||| value >>> (24 - distance)) k =
      if k ≤ d then wordByte value (3 - d + k) else wordByte old k := by
  split
  · refine wordByte_congr hk (by omega) fun i hi => ?_
    rw [getLsbD_lowEnd (by omega) old value (by omega), if_pos (by omega), hdistance]
    congr 1
    omega
  · refine wordByte_congr hk hk fun i hi => ?_
    rw [getLsbD_lowEnd (by omega) old value (by omega), if_neg (by omega)]

/-- The bytes of a word into whose high end a value is moved up. -/
theorem wordByte_highEnd (hdistance : distance.toNat = 8 * d) (hd : d ≤ 3) (hk : k < 4) :
    wordByte ((old &&& (0x00ffffff : UInt32) >>> (24 - distance)) ||| value <<< distance) k =
      if d ≤ k then wordByte value (k - d) else wordByte old k := by
  split
  · refine wordByte_congr hk (by omega) fun i hi => ?_
    rw [getLsbD_highEnd (by omega) old value (by omega), if_pos (by omega), hdistance]
    congr 1
    omega
  · refine wordByte_congr hk hk fun i hi => ?_
    rw [getLsbD_highEnd (by omega) old value (by omega), if_neg (by omega)]

/-- How far a byte is from the top byte of its word. -/
theorem toNat_byteShift_above (address : UInt32) :
    ((24 : UInt32) - byteShift address).toNat = 8 * (3 - (address &&& 3).toNat) := by
  have hshift := toNat_byteShift address
  have hlow := toNat_lowBits_le address
  have hle : byteShift address ≤ 24 := by
    rw [UInt32.le_iff_toNat_le, hshift]
    change _ ≤ 24
    omega
  rw [UInt32.toNat_sub_of_le _ _ hle, hshift]
  change 24 - _ = _
  omega

/-- What is above the byte and what is below it make up the rest of the word. -/
theorem byteShift_above_above (address : UInt32) :
    24 - (24 - byteShift address) = byteShift address := by
  have habove := toNat_byteShift_above address
  have hlow := toNat_lowBits_le address
  have hle : 24 - byteShift address ≤ 24 := by
    rw [UInt32.le_iff_toNat_le, habove]
    change _ ≤ 24
    omega
  rw [← UInt32.toNat_inj, UInt32.toNat_sub_of_le _ _ hle, habove, toNat_byteShift]
  change 24 - _ = _
  omega

/-- The load of the low bytes takes those from its address on, to the bottom. -/
theorem LoadOp.wordByte_combine_lwr (address old value : UInt32) (hk : k < 4) :
    wordByte (LoadOp.lwr.combine address old value) k =
      if (address &&& 3).toNat + k < 4 then wordByte value ((address &&& 3).toNat + k)
      else wordByte old k := by
  have hlow := toNat_lowBits_le address
  have hcombine : LoadOp.lwr.combine address old value =
      (old &&& (0xffffff00 : UInt32) <<< (24 - byteShift address)) |||
        value >>> (24 - (24 - byteShift address)) := by
    rw [byteShift_above_above]
    rfl
  rw [hcombine, wordByte_lowEnd (toNat_byteShift_above address) (by omega) hk]
  refine if_congr (by omega) ?_ rfl
  congr 1
  omega

/-- The load of the high bytes takes those up to its address, to the top. -/
theorem LoadOp.wordByte_combine_lwl (address old value : UInt32) (hk : k < 4) :
    wordByte (LoadOp.lwl.combine address old value) k =
      if 3 ≤ (address &&& 3).toNat + k then wordByte value ((address &&& 3).toNat + k - 3)
      else wordByte old k := by
  have hlow := toNat_lowBits_le address
  have hcombine : LoadOp.lwl.combine address old value =
      (old &&& (0x00ffffff : UInt32) >>> (24 - (24 - byteShift address))) |||
        value <<< (24 - byteShift address) := by
    rw [byteShift_above_above]
    rfl
  rw [hcombine, wordByte_highEnd (toNat_byteShift_above address) (by omega) hk]
  refine if_congr (by omega) ?_ rfl
  congr 1
  omega

/-- The store of the low bytes puts them from its address on. -/
theorem StoreOp.wordByte_combine_swr (address old value : UInt32) (hk : k < 4) :
    wordByte (StoreOp.swr.combine address old value) k =
      if (address &&& 3).toNat ≤ k then wordByte value (k - (address &&& 3).toNat)
      else wordByte old k :=
  wordByte_highEnd (toNat_byteShift address) (toNat_lowBits_le address) hk

/-- The store of the high bytes puts them up to its address. -/
theorem StoreOp.wordByte_combine_swl (address old value : UInt32) (hk : k < 4) :
    wordByte (StoreOp.swl.combine address old value) k =
      if k ≤ (address &&& 3).toNat then wordByte value (3 - (address &&& 3).toNat + k)
      else wordByte old k :=
  wordByte_lowEnd (toNat_byteShift address) (toNat_lowBits_le address) hk

end Bytes

/-- An end of a misaligned word. -/
inductive WordEnd where
  /-- The low bytes, from the address of the word on. -/
  | low
  /-- The high bytes, up to three bytes behind it. -/
  | high
  deriving DecidableEq

namespace WordEnd

/-- The end which is left. -/
def other : WordEnd → WordEnd
  | low => high
  | high => low

/-- The address which the instructions for the end are given, relative to that of
the word. -/
def distance : WordEnd → UInt32
  | low => 0
  | high => 3

/-- The load of the end. -/
def loadOp : WordEnd → LoadOp
  | low => .lwr
  | high => .lwl

/-- The store of the end. -/
def storeOp : WordEnd → StoreOp
  | low => .swr
  | high => .swl

/-- Offset of the word of memory which holds the end of a word. -/
def place (part : WordEnd) (offset : Nat) : Nat := (offset + part.distance.toNat) / 4 * 4

/-- Whether byte number `k` of the word at an offset is at the end. -/
def Covers (part : WordEnd) (offset k : Nat) : Prop :=
  part.place offset ≤ offset + k ∧ offset + k < part.place offset + 4

instance (part : WordEnd) (offset k : Nat) : Decidable (part.Covers offset k) :=
  inferInstanceAs (Decidable (_ ∧ _))

variable {part : WordEnd} {segment : Segment} {offset k : Nat}

/-- The low bytes end with the word of memory in which the word begins. -/
theorem covers_low : low.Covers offset k ↔ offset % 4 + k < 4 := by
  have hplace : low.place offset = offset / 4 * 4 := rfl
  rw [Covers, hplace]
  omega

/-- The high bytes begin with the word of memory in which the word ends. -/
theorem covers_high (hk : k < 4) : high.Covers offset k ↔ 3 ≤ (offset + 3) % 4 + k := by
  have hplace : high.place offset = (offset + 3) / 4 * 4 := rfl
  rw [Covers, hplace]
  omega

/-- Every byte of a word is at one of its ends. -/
theorem covers_or_covers_other (part : WordEnd) (offset : Nat) (hk : k < 4) :
    part.Covers offset k ∨ part.other.Covers offset k := by
  cases part <;> simp only [other, covers_low, covers_high hk] <;> omega

/-- The word of memory which holds an end is in main memory if the word is. -/
theorem place_lt (part : WordEnd) (hfits : offset + 4 ≤ ramSize) :
    part.place offset < ramSize := by
  have hlow : low.place offset = offset / 4 * 4 := rfl
  have hhigh : high.place offset = (offset + 3) / 4 * 4 := rfl
  cases part <;> omega

/-- The instructions for an end are given an address in the same segment. -/
theorem address_add_distance (part : WordEnd) (segment : Segment) (offset : Nat) :
    segment.address offset + part.distance = segment.address (offset + part.distance.toNat) := by
  rw [Segment.address, Segment.address, UInt32.ofNat_add, ← UInt32.add_assoc, UInt32.ofNat_toNat]

/-- How far the byte at that address is from the start of its word. -/
theorem toNat_lowBits_address (part : WordEnd) (segment : Segment)
    (hfits : offset + 4 ≤ ramSize) :
    (segment.address offset + part.distance &&& 3).toNat =
      (offset + part.distance.toNat) % 4 := by
  have hlow : (segment.address offset + part.distance &&& 3).toNat =
      (segment.address offset + part.distance).toNat % 4 := @toNat_and_mask _ 3 2 rfl
  have hdistance : part.distance.toNat ≤ 3 := by
    cases part <;> decide
  have hbase : segment.base.toNat % 4 = 0 := by
    cases segment <;> decide
  have hsize : offset + part.distance.toNat < 0x20000000 := by
    unfold ramSize at hfits
    omega
  rw [hlow, address_add_distance, segment.toNat_address hsize]
  omega

/-- They go to the word of memory which holds the end. -/
theorem upperBits_address (part : WordEnd) (segment : Segment) (hfits : offset + 4 ≤ ramSize) :
    segment.address offset + part.distance &&& 0xfffffffc =
      segment.address (part.place offset) := by
  have hdistance : part.distance.toNat ≤ 3 := by
    cases part <;> decide
  have hbase : segment.base.toNat % 4 = 0 := by
    cases segment <;> decide
  have hsize : offset + part.distance.toNat < 0x20000000 := by
    unfold ramSize at hfits
    omega
  have hplace : part.place offset = (offset + part.distance.toNat) / 4 * 4 := rfl
  rw [address_add_distance, ← UInt32.toNat_inj, toNat_upperBits, segment.toNat_address hsize,
    segment.toNat_address (by omega), hplace]
  omega

/-- A load of an end takes the bytes of the end from memory and keeps the other
bytes of its target. -/
theorem wordByte_combine_load {size : Nat} (part : WordEnd) (segment : Segment)
    (hfits : offset + 4 ≤ ramSize) (memory : Bytes size) (old : UInt32) (hk : k < 4) :
    wordByte (part.loadOp.combine (segment.address offset + part.distance) old
        (memory.load .word (part.place offset))) k =
      if part.Covers offset k then memory.get (offset + k) else wordByte old k := by
  have hlow := part.toNat_lowBits_address segment hfits
  cases part with
  | low =>
    have hplace : low.place offset = offset / 4 * 4 := rfl
    change _ = offset % 4 at hlow
    rw [loadOp, LoadOp.wordByte_combine_lwr _ _ _ hk, hlow]
    refine if_ctx_congr covers_low.symm (fun hcovered => ?_) fun _ => rfl
    rw [covers_low] at hcovered
    rw [wordByte_load _ _ (by omega), hplace]
    congr 1
    omega
  | high =>
    have hplace : high.place offset = (offset + 3) / 4 * 4 := rfl
    change _ = (offset + 3) % 4 at hlow
    rw [loadOp, LoadOp.wordByte_combine_lwl _ _ _ hk, hlow]
    refine if_ctx_congr (covers_high hk).symm (fun hcovered => ?_) fun _ => rfl
    rw [covers_high hk] at hcovered
    rw [wordByte_load _ _ (by omega), hplace]
    congr 1
    omega

/-- A store of an end puts the bytes of the end into memory and keeps the other
bytes there. -/
theorem get_store_combine {size : Nat} (part : WordEnd) (segment : Segment)
    (hfits : offset + 4 ≤ ramSize) (memory : Bytes size) (value : UInt32) {i : Nat}
    (hi : i < size) :
    (memory.store .word (part.place offset)
        (part.storeOp.combine (segment.address offset + part.distance)
          (memory.load .word (part.place offset)) value)).get i =
      if offset ≤ i ∧ i < offset + 4 ∧ part.Covers offset (i - offset) then
        wordByte value (i - offset)
      else memory.get i := by
  have hlow := part.toNat_lowBits_address segment hfits
  have hbytes : Width.word.bytes = 4 := rfl
  rw [Bytes.get_store _ _ _ _ hi, hbytes]
  -- Only the word of memory is stored, and each of its bytes comes from one of the two.
  by_cases hword : part.place offset ≤ i ∧ i < part.place offset + 4
  · have hback : part.place offset + (i - part.place offset) = i := by omega
    rw [if_pos hword]
    cases part with
    | low =>
      have hplace : low.place offset = offset / 4 * 4 := rfl
      change _ = offset % 4 at hlow
      rw [storeOp, StoreOp.wordByte_combine_swr _ _ _ (by omega), hlow,
        wordByte_load _ _ (by omega), hback]
      refine if_congr ?_ ?_ rfl
      · rw [covers_low]
        omega
      · congr 1
        omega
    | high =>
      have hplace : high.place offset = (offset + 3) / 4 * 4 := rfl
      change _ = (offset + 3) % 4 at hlow
      rw [storeOp, StoreOp.wordByte_combine_swl _ _ _ (by omega), hlow,
        wordByte_load _ _ (by omega), hback]
      refine if_congr ?_ ?_ rfl
      · rw [Covers, hplace]
        omega
      · congr 1
        omega
  · rw [if_neg hword, if_neg]
    rintro ⟨hfirst, hlast, hcovered⟩
    rw [Covers] at hcovered
    omega

end WordEnd

end Playstation
