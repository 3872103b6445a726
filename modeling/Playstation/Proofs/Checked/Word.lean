import Mathlib.Algebra.Group.Nat.Defs
import Playstation.Bits

/-!
# Operations without a result

Arithmetic of fixed width, shifts, bit fields and array accesses have no
result for some of their operands: a sum may not fit, a shift may be as long
as the word, a field may lie outside of it, an index may be past the end.
Here these operations are partial, in contrast to the total ones which the
machine runs on. Where a partial operation has a result, it is that of the
total one.
-/

namespace Playstation

open MachineWord

/-- A number as a word, if it fits. -/
def checkedWord (value : Nat) : Option UInt32 :=
  if value < 2 ^ 32 then some value.toUInt32 else none

/-- A number as a byte, if it fits. -/
def checkedByte (value : Nat) : Option Nat := if value < 2 ^ 8 then some value else none

/-- The sum of two words, if it fits. -/
def checkedAdd (x y : UInt32) : Option UInt32 := checkedWord (x.toNat + y.toNat)

/-- The product of two words, if it fits. -/
def checkedMul (x y : UInt32) : Option UInt32 := checkedWord (x.toNat * y.toNat)

/-- The difference of two words, if it is not negative. -/
def checkedSub (x y : UInt32) : Option UInt32 := if y ≤ x then some (x - y) else none

/-- The elements after one has been replaced, if it exists. -/
def checkedSet {α : Type} {size : Nat} (elements : Vector α size) (i : Nat) (value : α) :
    Option (Vector α size) :=
  if h : i < size then some (elements.set i value h) else none

section Fields

variable {α : Type} [MachineWord α]

/-- Move every bit up, by less than the width. -/
def checkedShiftUp (x : α) (n : Nat) : Option α :=
  if n < width α then some (shiftUp x n) else none

/-- Move every bit down, by less than the width. -/
def checkedShiftDown (x : α) (n : Nat) : Option α :=
  if n < width α then some (shiftDown x n) else none

/-- The word whose `count` lowest bits are set. There are not more bits than
the width, and the shift which makes the word is shorter than it. -/
def checkedLowMask (count : Nat) : Option α :=
  if count ≤ width α then checkedShiftDown ones (width α - count) else none

/-- The bit at a position inside the word. -/
def checkedBit (x : α) (n : Nat) : Option Bool := if n < width α then some (bit x n) else none

/-- The field between two positions inside the word. -/
def checkedBits (x : α) (low high : Nat) : Option α :=
  if low ≤ high ∧ high < width α then do
    let moved ← checkedShiftDown x low
    let mask ← checkedLowMask (high - low + 1)
    return moved &&& mask
  else none

/-- Replace the bit at a position inside the word. -/
def checkedSetBit (x : α) (n : Nat) (value : Bool) : Option α := do
  let place ← checkedShiftUp one n
  return if value then x ||| place else x &&& ~~~place

/-- Replace the field between two positions inside the word. -/
def checkedSetBits (x : α) (low high : Nat) (value : α) : Option α :=
  if low ≤ high ∧ high < width α then do
    let mask ← checkedLowMask (high - low + 1)
    let place ← checkedShiftUp mask low
    let field ← checkedShiftUp (value &&& mask) low
    return (x &&& ~~~place) ||| field
  else none

end Fields

/-- A number that fits is a word. -/
theorem checkedWord_eq {value : Nat} (h : value < 2 ^ 32) :
    checkedWord value = some value.toUInt32 := if_pos h

/-- A sum that fits is that of the words. -/
theorem checkedAdd_eq {x y : UInt32} (h : x.toNat + y.toNat < 2 ^ 32) :
    checkedAdd x y = some (x + y) := by
  rw [checkedAdd, checkedWord_eq h]
  rfl

example : checkedAdd 0xfffffffe 1 = some 0xffffffff ∧ checkedAdd 0xffffffff 1 = none := by decide

/-- A product that fits is that of the words. -/
theorem checkedMul_eq {x y : UInt32} (h : x.toNat * y.toNat < 2 ^ 32) :
    checkedMul x y = some (x * y) := by
  rw [checkedMul, checkedWord_eq h]
  rfl

/-- A difference that is not negative is that of the words. -/
theorem checkedSub_eq {x y : UInt32} (h : y ≤ x) : checkedSub x y = some (x - y) := if_pos h

/-- A number which a low mask has left. -/
theorem toNat_and_mask (x : UInt32) {mask : UInt32} {n : Nat} (h : mask.toNat = 2 ^ n - 1) :
    (x &&& mask).toNat = x.toNat % 2 ^ n := by
  rw [UInt32.toNat_and, h, Nat.and_two_pow_sub_one_eq_mod]

/-- A number of which a mask has left a field in its place. -/
theorem toNat_and_field (x : UInt32) {mask : UInt32} {n k : Nat}
    (h : mask.toNat = (2 ^ n - 1) * 2 ^ k) :
    (x &&& mask).toNat = x.toNat / 2 ^ k % 2 ^ n * 2 ^ k := by
  rw [UInt32.toNat_and, h]
  apply Nat.eq_of_testBit_eq
  intro i
  rw [Nat.testBit_and, Nat.testBit_mul_two_pow, Nat.testBit_two_pow_sub_one,
    Nat.testBit_mul_two_pow, Nat.testBit_mod_two_pow, Nat.testBit_div_two_pow]
  by_cases h : k ≤ i
  · simp [h, Nat.sub_add_cancel h, Bool.and_comm]
  · simp [h]

/-- A field which reaches up to the top bit needs no mask. -/
theorem bits_top (x : UInt32) {low : Nat} (h : low < 32) : bits x low 31 = shiftDown x low := by
  refine eq_of_getLsbD_eq fun i _ => ?_
  rw [getLsbD_bits _ (by omega) (by decide), toBits_shiftDown _ _ h, BitVec.getLsbD_ushiftRight]
  by_cases hinside : i < 31 - low + 1
  · simp [hinside]
  · have hnone : (toBits x).getLsbD (low + i) = false :=
      BitVec.getLsbD_of_ge _ _ (show 32 ≤ low + i by omega)
    simp [hnone]

/-- An element that exists is replaced. -/
theorem checkedSet_eq {α : Type} {size : Nat} {elements : Vector α size} {i : Nat} {value : α}
    (h : i < size) : checkedSet elements i value = some (elements.setIfInBounds i value) := by
  rw [checkedSet, dif_pos h]
  congr 1
  ext j hj
  rw [Vector.getElem_set, Vector.getElem_setIfInBounds]

section Fields

variable {α : Type} [MachineWord α] (x value : α) {n low high : Nat}

/-- A shift by less than the width has a result. -/
theorem checkedShiftUp_eq (h : n < width α) : checkedShiftUp x n = some (shiftUp x n) := if_pos h

/-- A shift by less than the width has a result. -/
theorem checkedShiftDown_eq (h : n < width α) : checkedShiftDown x n = some (shiftDown x n) :=
  if_pos h

/-- A mask of at least one bit, and not more than there are, has a result. -/
theorem checkedLowMask_eq {count : Nat} (h0 : 0 < count) (hw : count ≤ width α) :
    checkedLowMask count = some (lowMask count : α) := by
  rw [checkedLowMask, if_pos hw, checkedShiftDown_eq _ (by omega), lowMask]

/-- A position inside the word has a bit. -/
theorem checkedBit_eq (h : n < width α) : checkedBit x n = some (bit x n) := if_pos h

/-- Two positions inside the word bound a field. -/
theorem checkedBits_eq (h : low ≤ high) (hw : high < width α) :
    checkedBits x low high = some (bits x low high) := by
  rw [checkedBits, if_pos ⟨h, hw⟩, checkedShiftDown_eq _ (by omega),
    checkedLowMask_eq (by omega) (by omega)]
  rfl

example : checkedBits (0xb0 : UInt8) 4 7 = some 0xb ∧ checkedBits (0xb0 : UInt8) 4 8 = none :=
  ⟨rfl, rfl⟩

/-- A position inside the word has a bit to replace. -/
theorem checkedSetBit_eq (h : n < width α) (value : Bool) :
    checkedSetBit x n value = some (setBit x n value) := by
  rw [checkedSetBit, checkedShiftUp_eq _ h]
  rfl

/-- Two positions inside the word bound a field to replace. -/
theorem checkedSetBits_eq (h : low ≤ high) (hw : high < width α) :
    checkedSetBits x low high value = some (setBits x low high value) := by
  rw [checkedSetBits, if_pos ⟨h, hw⟩, checkedLowMask_eq (by omega) (by omega)]
  simp only [Option.bind_eq_bind, Option.bind_some]
  rw [checkedShiftUp_eq _ (by omega), checkedShiftUp_eq _ (by omega)]
  rfl

end Fields

end Playstation
