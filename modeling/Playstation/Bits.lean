/-!
# Bit fields of machine words

Hardware registers pack several values into one word. A field is named by its
lowest and highest bit, both inclusive, so `bits x 16 31` is the upper half of
a 32-bit word. Reading moves the field down to bit zero; replacing it ignores
those bits of the new value which do not fit. The operations are the same for
words of 8, 16 and 32 bits. Every word stands for one bit vector, and the main
statements say which bit of an argument each bit of a result is.
-/

namespace Playstation

/-- Words of a fixed number of bits together with the bit vector each of them
stands for. Shift amounts and positions are meant to be below the width. -/
class MachineWord (α : Type) extends AndOp α, OrOp α, Complement α where
  /-- Number of bits in a word. -/
  width : Nat
  /-- The bit vector a word stands for. -/
  toBits : α → BitVec width
  /-- The word with only bit zero set. -/
  one : α
  /-- The word with every bit set. -/
  ones : α
  /-- Move every bit up, filling with zeros. -/
  shiftUp : α → Nat → α
  /-- Move every bit down, filling with zeros. -/
  shiftDown : α → Nat → α
  /-- The bit at a position. -/
  bit : α → Nat → Bool
  /-- A word is determined by its bits. -/
  toBits_injective : ∀ x y, toBits x = toBits y → x = y
  /-- Conjunction works bit by bit. -/
  toBits_and : ∀ x y, toBits (AndOp.and x y) = toBits x &&& toBits y
  /-- Disjunction works bit by bit. -/
  toBits_or : ∀ x y, toBits (OrOp.or x y) = toBits x ||| toBits y
  /-- Complement works bit by bit. -/
  toBits_not : ∀ x, toBits (Complement.complement x) = ~~~toBits x
  /-- One is the number one. -/
  toBits_one : toBits one = BitVec.ofNat width 1
  /-- All ones is the vector of ones. -/
  toBits_ones : toBits ones = BitVec.allOnes width
  /-- Moving up is a left shift. -/
  toBits_shiftUp : ∀ x n, n < width → toBits (shiftUp x n) = toBits x <<< n
  /-- Moving down is a right shift. -/
  toBits_shiftDown : ∀ x n, n < width → toBits (shiftDown x n) = toBits x >>> n
  /-- A bit is the bit of the vector. -/
  bit_eq : ∀ x n, n < width → bit x n = (toBits x).getLsbD n

export MachineWord (bit)

section Fields

variable {α : Type} [MachineWord α]

/-- The word whose `count` lowest bits are set, for a count of at least one.
Moving down from all ones keeps the shift below the width even for a field as
wide as the word. -/
@[inline] def lowMask (count : Nat) : α :=
  MachineWord.shiftDown (MachineWord.ones : α) (MachineWord.width α - count)

/-- The field from bit `low` up to and including bit `high`, moved down to bit
zero. -/
@[inline] def bits (x : α) (low high : Nat) : α :=
  MachineWord.shiftDown x low &&& lowMask (high - low + 1)

/-- Replace the bit at position `n`. -/
@[inline] def setBit (x : α) (n : Nat) (value : Bool) : α :=
  if value then x ||| MachineWord.shiftUp MachineWord.one n
  else x &&& ~~~(MachineWord.shiftUp (MachineWord.one : α) n)

/-- Replace the field from bit `low` up to and including bit `high` by the low
bits of `value`. -/
@[inline] def setBits (x : α) (low high : Nat) (value : α) : α :=
  (x &&& ~~~(MachineWord.shiftUp (lowMask (high - low + 1) : α) low)) |||
    MachineWord.shiftUp (value &&& lowMask (high - low + 1)) low

end Fields

/-- A bit moved down to zero and masked is one exactly if it was set. -/
theorem and_one_eq_one_iff {w : Nat} (hw : 1 < w) (b : BitVec w) (n : Nat) :
    (b >>> n) &&& BitVec.ofNat w 1 = BitVec.ofNat w 1 ↔ b.getLsbD n = true := by
  have h1 : 1 < 2 ^ w := Nat.one_lt_two_pow (by omega)
  rw [← BitVec.toNat_inj, BitVec.toNat_and, BitVec.toNat_ushiftRight, BitVec.toNat_ofNat,
    Nat.mod_eq_of_lt h1, Nat.and_one_is_mod, BitVec.getLsbD, Nat.testBit, Nat.and_comm,
    Nat.and_one_is_mod]
  simp

/-- A shift amount below the width of a word fits into the word. -/
theorem toNat_amount {w n : Nat} (h : n < w) :
    (BitVec.ofNat w n % BitVec.ofNat w w).toNat = n := by
  have hw : w < 2 ^ w := Nat.lt_two_pow_self
  rw [BitVec.toNat_umod, BitVec.toNat_ofNat, BitVec.toNat_ofNat, Nat.mod_eq_of_lt hw,
    Nat.mod_eq_of_lt (Nat.lt_trans h hw), Nat.mod_eq_of_lt h]

/-- Shift up by an amount which is a word itself. -/
theorem shiftLeft_amount {w n : Nat} (b : BitVec w) (h : n < w) :
    b <<< (BitVec.ofNat w n % BitVec.ofNat w w) = b <<< n := by
  rw [BitVec.shiftLeft_eq', toNat_amount h]

/-- Shift down by an amount which is a word itself. -/
theorem ushiftRight_amount {w n : Nat} (b : BitVec w) (h : n < w) :
    b >>> (BitVec.ofNat w n % BitVec.ofNat w w) = b >>> n := by
  rw [BitVec.ushiftRight_eq', toNat_amount h]

instance : MachineWord UInt8 where
  width := 8
  toBits := UInt8.toBitVec
  one := 1
  ones := 0xff
  shiftUp x n := x <<< n.toUInt8
  shiftDown x n := x >>> n.toUInt8
  bit x n := (x >>> n.toUInt8) &&& 1 == 1
  toBits_injective _ _ h := UInt8.eq_of_toBitVec_eq h
  toBits_and _ _ := rfl
  toBits_or _ _ := rfl
  toBits_not _ := rfl
  toBits_one := rfl
  toBits_ones := rfl
  toBits_shiftUp x _ h := shiftLeft_amount x.toBitVec h
  toBits_shiftDown x _ h := ushiftRight_amount x.toBitVec h
  bit_eq x n h := by
    rw [Bool.eq_iff_iff, ← and_one_eq_one_iff (by decide), beq_iff_eq, ← UInt8.toBitVec_inj,
      ← ushiftRight_amount x.toBitVec h]
    rfl

instance : MachineWord UInt16 where
  width := 16
  toBits := UInt16.toBitVec
  one := 1
  ones := 0xffff
  shiftUp x n := x <<< n.toUInt16
  shiftDown x n := x >>> n.toUInt16
  bit x n := (x >>> n.toUInt16) &&& 1 == 1
  toBits_injective _ _ h := UInt16.eq_of_toBitVec_eq h
  toBits_and _ _ := rfl
  toBits_or _ _ := rfl
  toBits_not _ := rfl
  toBits_one := rfl
  toBits_ones := rfl
  toBits_shiftUp x _ h := shiftLeft_amount x.toBitVec h
  toBits_shiftDown x _ h := ushiftRight_amount x.toBitVec h
  bit_eq x n h := by
    rw [Bool.eq_iff_iff, ← and_one_eq_one_iff (by decide), beq_iff_eq, ← UInt16.toBitVec_inj,
      ← ushiftRight_amount x.toBitVec h]
    rfl

instance : MachineWord UInt32 where
  width := 32
  toBits := UInt32.toBitVec
  one := 1
  ones := 0xffffffff
  shiftUp x n := x <<< n.toUInt32
  shiftDown x n := x >>> n.toUInt32
  bit x n := (x >>> n.toUInt32) &&& 1 == 1
  toBits_injective _ _ h := UInt32.eq_of_toBitVec_eq h
  toBits_and _ _ := rfl
  toBits_or _ _ := rfl
  toBits_not _ := rfl
  toBits_one := rfl
  toBits_ones := rfl
  toBits_shiftUp x _ h := shiftLeft_amount x.toBitVec h
  toBits_shiftDown x _ h := ushiftRight_amount x.toBitVec h
  bit_eq x n h := by
    rw [Bool.eq_iff_iff, ← and_one_eq_one_iff (by decide), beq_iff_eq, ← UInt32.toBitVec_inj,
      ← ushiftRight_amount x.toBitVec h]
    rfl

section Laws

open MachineWord

variable {α : Type} [MachineWord α]

/-- A word is determined by the bits below its width. -/
theorem eq_of_getLsbD_eq {x y : α}
    (h : ∀ i < width α, (toBits x).getLsbD i = (toBits y).getLsbD i) : x = y :=
  toBits_injective x y (BitVec.eq_of_getLsbD_eq h)

/-- The bits of a conjunction. -/
theorem getLsbD_and (x y : α) (i : Nat) :
    (toBits (x &&& y)).getLsbD i = ((toBits x).getLsbD i && (toBits y).getLsbD i) := by
  rw [show toBits (x &&& y) = toBits x &&& toBits y from toBits_and x y, BitVec.getLsbD_and]

/-- The bits of a disjunction. -/
theorem getLsbD_or (x y : α) (i : Nat) :
    (toBits (x ||| y)).getLsbD i = ((toBits x).getLsbD i || (toBits y).getLsbD i) := by
  rw [show toBits (x ||| y) = toBits x ||| toBits y from toBits_or x y, BitVec.getLsbD_or]

/-- The bits of a complement. -/
theorem getLsbD_not (x : α) (i : Nat) :
    (toBits (~~~x)).getLsbD i = (decide (i < width α) && !(toBits x).getLsbD i) := by
  rw [toBits_not, BitVec.getLsbD_not]

/-- The low mask holds exactly the positions below its count. -/
theorem getLsbD_lowMask {count : Nat} (h0 : 0 < count) (hw : count ≤ width α) (i : Nat) :
    (toBits (lowMask count : α)).getLsbD i = decide (i < count) := by
  rw [lowMask, toBits_shiftDown _ _ (by omega), toBits_ones]
  simp only [BitVec.getLsbD_ushiftRight, BitVec.getLsbD_allOnes]
  by_cases h : i < count <;> simp [h] <;> omega

/-- Bit `i` of a field is bit `low + i` of the word. -/
theorem getLsbD_bits (x : α) {low high : Nat} (h : low ≤ high) (hw : high < width α) (i : Nat) :
    (toBits (bits x low high)).getLsbD i =
      ((toBits x).getLsbD (low + i) && decide (i < high - low + 1)) := by
  rw [bits, getLsbD_and, toBits_shiftDown _ _ (by omega), BitVec.getLsbD_ushiftRight,
    getLsbD_lowMask (by omega) (by omega)]

/-- Replacing a field takes the positions inside it from the new value and
leaves the others. -/
theorem getLsbD_setBits (x value : α) {low high : Nat} (h : low ≤ high) (hw : high < width α)
    (i : Nat) :
    (toBits (setBits x low high value)).getLsbD i =
      if low ≤ i ∧ i ≤ high then (toBits value).getLsbD (i - low) else (toBits x).getLsbD i := by
  rw [setBits, getLsbD_or, getLsbD_and, getLsbD_not, toBits_shiftUp _ _ (by omega),
    toBits_shiftUp _ _ (by omega), BitVec.getLsbD_shiftLeft, BitVec.getLsbD_shiftLeft, getLsbD_and,
    getLsbD_lowMask (by omega) (by omega)]
  by_cases hi : i < width α
  · by_cases h1 : low ≤ i
    · by_cases h2 : i ≤ high
      · simp [hi, h1, h2, show ¬i < low by omega, show i - low < high - low + 1 by omega]
      · simp [hi, h1, h2, show ¬i - low < high - low + 1 by omega]
    · simp [hi, h1, show i < low by omega]
  · have hx : (toBits x).getLsbD i = false := BitVec.getLsbD_of_ge _ i (by omega)
    simp [hi, hx, show ¬i ≤ high by omega]

/-- The word with one bit set has that bit only. -/
theorem getLsbD_shiftUp_one {n : Nat} (h : n < width α) (i : Nat) :
    (toBits (shiftUp (one : α) n)).getLsbD i = decide (i = n) := by
  rw [toBits_shiftUp _ _ h, toBits_one, BitVec.getLsbD_shiftLeft, BitVec.getLsbD_one]
  by_cases hi : i = n
  · subst hi
    simp [h, show 0 < width α by omega]
  · by_cases hn : i < n
    · simp [hn, hi]
    · simp [hi, show ¬i - n = 0 by omega]

/-- Replacing a bit changes that position only. -/
theorem getLsbD_setBit (x : α) {n : Nat} (h : n < width α) (value : Bool) (i : Nat) :
    (toBits (setBit x n value)).getLsbD i =
      if i = n then value else (toBits x).getLsbD i := by
  rw [setBit]
  cases value with
  | true =>
    rw [if_pos rfl, getLsbD_or, getLsbD_shiftUp_one h]
    by_cases hi : i = n <;> simp [hi]
  | false =>
    rw [if_neg Bool.false_ne_true, getLsbD_and, getLsbD_not, getLsbD_shiftUp_one h]
    by_cases hi : i = n
    · simp [hi]
    · by_cases hw : i < width α
      · simp [hi, hw]
      · simp [hi, BitVec.getLsbD_of_ge (toBits x) i (by omega)]

end Laws

end Playstation
