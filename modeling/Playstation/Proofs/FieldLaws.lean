import Playstation.Proofs.Field

/-!
# Laws of bit fields

A field is read and replaced like a variable of its own, though it shares a word
with others. What is put into it is found there, as far as it fits; what is found
can be put back without a trace; what is put later counts; and fields which share
no bit neither see nor disturb each other. A field of one bit is that bit. All of
this holds up to the field which is the whole word, since no shift is as long as
the word, not even that which makes the mask.
-/

namespace Playstation

open MachineWord

section Words

variable {α : Type} [MachineWord α] {low high first last n : Nat}

/-- The word of a flag, which is one or zero. -/
def ofFlag (flag : Bool) : α := if flag then one else ~~~ones

/-- The only bit of a flag is its lowest one. -/
theorem getLsbD_ofFlag (hwidth : 0 < width α) (flag : Bool) (i : Nat) :
    (toBits (ofFlag flag : α)).getLsbD i = (decide (i = 0) && flag) := by
  cases flag with
  | true =>
    rw [ofFlag, if_pos rfl, toBits_one, BitVec.getLsbD_one, decide_eq_true hwidth, Bool.true_and,
      Bool.and_true]
  | false =>
    rw [ofFlag, if_neg Bool.false_ne_true, getLsbD_not, toBits_ones, BitVec.getLsbD_allOnes,
      Bool.and_not_self, Bool.and_false]

/-- The number of a flag. -/
theorem toNat_ofFlag (hwidth : 0 < width α) (flag : Bool) :
    (toBits (ofFlag flag : α)).toNat = flag.toNat := by
  apply Nat.eq_of_testBit_eq
  intro i
  change (toBits (ofFlag flag : α)).getLsbD i = _
  rw [getLsbD_ofFlag hwidth, Nat.testBit_bool_toNat]

example : (ofFlag true : UInt8) = 1 ∧ (ofFlag false : UInt32) = 0 := by decide

/-- The number of a low mask has a one for each bit. -/
theorem toNat_lowMask {count : Nat} (hpos : 0 < count) (hcount : count ≤ width α) :
    (toBits (lowMask count : α)).toNat = 2 ^ count - 1 := by
  apply Nat.eq_of_testBit_eq
  intro i
  rw [Nat.testBit_two_pow_sub_one]
  exact getLsbD_lowMask hpos hcount i

/-- The mask of a field loses no bit on the way to its place, as the field ends inside the
word. -/
theorem toNat_placedMask (hle : low ≤ high) (hhigh : high < width α) :
    (toBits (shiftUp (lowMask (high - low + 1) : α) low)).toNat =
      (2 ^ (high - low + 1) - 1) * 2 ^ low := by
  have hend : high - low + 1 + low ≤ width α := by omega
  have hfits : (2 ^ (high - low + 1) - 1) * 2 ^ low < 2 ^ width α := by
    calc (2 ^ (high - low + 1) - 1) * 2 ^ low
        < 2 ^ (high - low + 1) * 2 ^ low :=
          Nat.mul_lt_mul_of_pos_right (Nat.sub_lt (Nat.two_pow_pos _) Nat.one_pos)
            (Nat.two_pow_pos _)
      _ = 2 ^ (high - low + 1 + low) := (Nat.pow_add 2 _ _).symm
      _ ≤ 2 ^ width α := Nat.pow_le_pow_right Nat.two_pos hend
  rw [toBits_shiftUp _ _ (by omega), BitVec.toNat_shiftLeft, toNat_lowMask (by omega) (by omega),
    Nat.shiftLeft_eq, Nat.mod_eq_of_lt hfits]

/-- What is found in a field after a number has been put there is its remainder. -/
theorem toNat_bits_setBits (x value : α) (hle : low ≤ high) (hhigh : high < width α) :
    (toBits (bits (setBits x low high value) low high)).toNat =
      (toBits value).toNat % 2 ^ (high - low + 1) := by
  rw [bits_setBits_same x value hle hhigh, toNat_toBits_bits _ (Nat.zero_le _) (by omega),
    Nat.pow_zero, Nat.div_one, Nat.sub_zero]

/-- Putting back what has been found in a field changes nothing. -/
theorem setBits_bits (x : α) (hle : low ≤ high) (hhigh : high < width α) :
    setBits x low high (bits x low high) = x := by
  refine eq_of_getLsbD_eq fun i _ => ?_
  rw [getLsbD_setBits_bits hle hhigh, ite_self]

/-- What is put into a field later replaces what was put there before. -/
theorem setBits_setBits (x value later : α) (hle : low ≤ high) (hhigh : high < width α) :
    setBits (setBits x low high value) low high later = setBits x low high later := by
  refine eq_of_getLsbD_eq fun i _ => ?_
  rw [getLsbD_setBits _ _ hle hhigh, getLsbD_setBits _ _ hle hhigh, getLsbD_setBits _ _ hle hhigh]
  by_cases hinside : low ≤ i ∧ i ≤ high
  · rw [if_pos hinside, if_pos hinside]
  · rw [if_neg hinside, if_neg hinside, if_neg hinside]

/-- Two fields which share no bit are replaced in any order. -/
theorem setBits_comm (x value other : α) (hle : low ≤ high) (hhigh : high < width α)
    (hfirst : first ≤ last) (hlast : last < width α) (hdisjoint : high < first ∨ last < low) :
    setBits (setBits x low high value) first last other =
      setBits (setBits x first last other) low high value := by
  refine eq_of_getLsbD_eq fun i _ => ?_
  rw [getLsbD_setBits _ _ hfirst hlast, getLsbD_setBits _ _ hle hhigh,
    getLsbD_setBits _ _ hle hhigh, getLsbD_setBits _ _ hfirst hlast]
  -- A bit of one field is none of the other, so that it is replaced once in either order.
  by_cases hinside : low ≤ i ∧ i ≤ high
  · have houtside : ¬(first ≤ i ∧ i ≤ last) := by omega
    rw [if_neg houtside, if_pos hinside, if_pos hinside]
  · rw [if_neg hinside, if_neg hinside]

/-- A field of one bit is that bit. -/
theorem bits_self (x : α) (hn : n < width α) : bits x n n = ofFlag (bit x n) := by
  have hlength : n - n + 1 = 1 := by omega
  refine eq_of_getLsbD_eq fun i _ => ?_
  rw [getLsbD_bits _ (Nat.le_refl n) hn, getLsbD_ofFlag (by omega), bit_eq _ _ hn, hlength]
  by_cases hzero : i = 0
  · subst hzero
    rw [Nat.add_zero, Bool.and_comm]
    rfl
  · rw [decide_eq_false hzero, decide_eq_false (by omega), Bool.and_false, Bool.false_and]

/-- Of what is put into a field of one bit, the lowest bit counts. -/
theorem setBits_self (x value : α) (hn : n < width α) :
    setBits x n n value = setBit x n (bit value 0) := by
  refine eq_of_getLsbD_eq fun i _ => ?_
  rw [getLsbD_setBits _ _ (Nat.le_refl n) hn, getLsbD_setBit _ hn, bit_eq _ _ (by omega)]
  by_cases hsame : i = n
  · rw [if_pos hsame, if_pos (by omega), hsame, Nat.sub_self]
  · rw [if_neg hsame, if_neg (by omega)]

/-- The lowest bit of a flag. -/
theorem bit_ofFlag (hwidth : 0 < width α) (flag : Bool) : bit (ofFlag flag : α) 0 = flag := by
  rw [bit_eq _ _ hwidth, getLsbD_ofFlag hwidth, decide_eq_true rfl, Bool.true_and]

end Words

/-- What holds of the field from bit `low` up to and including bit `high` in words of one
width. -/
structure LawfulField (α : Type) [MachineWord α] (low high : Nat) : Prop where
  /-- What is put there is found, less the bits which do not fit. -/
  found : ∀ x value : α, (toBits (bits (setBits x low high value) low high)).toNat =
    (toBits value).toNat % 2 ^ (high - low + 1)
  /-- A field which shares no bit with this one is found as it was. -/
  untouched : ∀ (x value : α) (first last : Nat), first ≤ last → last < width α →
    (high < first ∨ last < low) →
      bits (setBits x low high value) first last = bits x first last
  /-- Putting back what is found there changes nothing. -/
  restored : ∀ x : α, setBits x low high (bits x low high) = x
  /-- What is put there later replaces what was put there before. -/
  replaced : ∀ x value later : α,
    setBits (setBits x low high value) low high later = setBits x low high later
  /-- A field which shares no bit with this one is replaced before it or after it. -/
  exchanged : ∀ (x value other : α) (first last : Nat), first ≤ last → last < width α →
    (high < first ∨ last < low) →
      setBits (setBits x low high value) first last other =
        setBits (setBits x first last other) low high value
  /-- Every shift by which the field is read is shorter than the word. -/
  readable : ∀ x : α, checkedBits x low high = some (bits x low high)
  /-- Every shift by which the field is replaced is shorter than the word. -/
  writable : ∀ x value : α, checkedSetBits x low high value = some (setBits x low high value)
  /-- The mask has a one for each bit of the field, also after it was moved there. -/
  mask : (toBits (lowMask (high - low + 1) : α)).toNat = 2 ^ (high - low + 1) - 1 ∧
    (toBits (shiftUp (lowMask (high - low + 1) : α) low)).toNat =
      (2 ^ (high - low + 1) - 1) * 2 ^ low

/-- What holds of the bit at position `n` in words of one width. -/
structure LawfulBit (α : Type) [MachineWord α] (n : Nat) : Prop where
  /-- The field of this bit alone is one if the bit is set, and zero if not. -/
  found : ∀ x : α, bits x n n = ofFlag (bit x n) ∧ (toBits (bits x n n)).toNat = (bit x n).toNat
  /-- Replacing the bit is replacing that field by one or zero. -/
  replaced : ∀ (x : α) (flag : Bool), setBit x n flag = setBits x n n (ofFlag flag)
  /-- Replacing that field is replacing the bit by the lowest one of the value. -/
  lowest : ∀ x value : α, setBits x n n value = setBit x n (bit value 0)
  /-- The shift by which the bit is read is shorter than the word. -/
  readable : ∀ x : α, checkedBit x n = some (bit x n)
  /-- The shift by which the bit is replaced is shorter than the word. -/
  writable : ∀ (x : α) (flag : Bool), checkedSetBit x n flag = some (setBit x n flag)

section Lawful

variable {α : Type} [MachineWord α] {low high n : Nat}

/-- A field inside the word is lawful. -/
theorem lawfulField (hle : low ≤ high) (hhigh : high < width α) : LawfulField α low high where
  found x value := toNat_bits_setBits x value hle hhigh
  untouched x value _ _ hfirst hlast hdisjoint :=
    bits_setBits_disjoint x value hle hhigh hfirst hlast hdisjoint
  restored x := setBits_bits x hle hhigh
  replaced x value later := setBits_setBits x value later hle hhigh
  exchanged x value other _ _ hfirst hlast hdisjoint :=
    setBits_comm x value other hle hhigh hfirst hlast hdisjoint
  readable x := checkedBits_eq x hle hhigh
  writable x value := checkedSetBits_eq x value hle hhigh
  mask := ⟨toNat_lowMask (by omega) (by omega), toNat_placedMask hle hhigh⟩

/-- A bit inside the word is lawful. -/
theorem lawfulBit (hn : n < width α) : LawfulBit α n where
  found x := by
    have hfield := bits_self x hn
    exact ⟨hfield, by rw [hfield, toNat_ofFlag (by omega)]⟩
  replaced x flag := by rw [setBits_self x _ hn, bit_ofFlag (by omega)]
  lowest x value := setBits_self x value hn
  readable x := checkedBit_eq x hn
  writable x flag := checkedSetBit_eq x hn flag

end Lawful

/-- In bytes, halfwords and words, every field which ends below the width is lawful, and so is
every bit. -/
theorem lawful_fields {low high : Nat} (hle : low ≤ high) :
    (high < 8 → LawfulField UInt8 low high) ∧
    (high < 16 → LawfulField UInt16 low high) ∧
    (high < 32 → LawfulField UInt32 low high) ∧
    (∀ n < 8, LawfulBit UInt8 n) ∧ (∀ n < 16, LawfulBit UInt16 n) ∧
      ∀ n < 32, LawfulBit UInt32 n :=
  ⟨fun hhigh => lawfulField hle hhigh, fun hhigh => lawfulField hle hhigh,
    fun hhigh => lawfulField hle hhigh, fun _ hn => lawfulBit hn, fun _ hn => lawfulBit hn,
    fun _ hn => lawfulBit hn⟩

/-- The widest field of each width, with the highest bit of a word. A word put into the upper
half of another is cut to its own lower half. -/
theorem lawful_fields_whole :
    ((0 ≤ 7 ∧ 7 < 8) ∧ LawfulField UInt8 0 7) ∧ ((0 ≤ 15 ∧ 15 < 16) ∧ LawfulField UInt16 0 15) ∧
    ((0 ≤ 31 ∧ 31 < 32) ∧ LawfulField UInt32 0 31) ∧ LawfulBit UInt32 31 ∧
    (16 ≤ 31 ∧ (toBits (bits (setBits (0xdeadbeef : UInt32) 16 31 0x12345678) 16 31)).toNat =
      0x5678) := by
  have hbyte := (lawful_fields (Nat.zero_le 7)).1 (by decide)
  have hhalf := (lawful_fields (Nat.zero_le 15)).2.1 (by decide)
  obtain ⟨-, -, hword, -, -, hbits⟩ := lawful_fields (Nat.zero_le 31)
  have hupper := (lawful_fields (show 16 ≤ 31 by decide)).2.2.1 (by decide)
  refine ⟨⟨by decide, hbyte⟩, ⟨by decide, hhalf⟩, ⟨by decide, hword (by decide)⟩,
    hbits 31 (by decide), by decide, ?_⟩
  rw [hupper.found]
  rfl

end Playstation
