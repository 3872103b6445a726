import Playstation.Bios

/-!
# Words in a memory

A word that has been stored is read back from the same place, because its four
bytes make up the word again, and words elsewhere keep their value. So a
program that is written word by word is read back word by word.
-/

namespace Playstation

/-- The four bytes of a word, the lowest first, make up the word. -/
theorem word_of_bytes (value : UInt32) :
    value.toUInt8.toUInt32 ||| (value >>> 8).toUInt8.toUInt32 <<< 8 |||
      (value >>> 16).toUInt8.toUInt32 <<< 16 ||| (value >>> 24).toUInt8.toUInt32 <<< 24 =
        value := by
  have h8 : (UInt32.toBitVec 8 % 32).toNat = 8 := rfl
  have h16 : (UInt32.toBitVec 16 % 32).toNat = 16 := rfl
  have h24 : (UInt32.toBitVec 24 % 32).toNat = 24 := rfl
  apply UInt32.toBitVec_inj.mp
  apply BitVec.eq_of_getLsbD_eq
  intro i hi
  simp only [UInt32.toBitVec_or, UInt32.toBitVec_shiftLeft, UInt8.toBitVec_toUInt32,
    UInt32.toBitVec_toUInt8, UInt32.toBitVec_shiftRight, BitVec.shiftLeft_eq',
    BitVec.ushiftRight_eq', h8, h16, h24, BitVec.getLsbD_or, BitVec.getLsbD_shiftLeft,
    BitVec.getLsbD_setWidth, BitVec.getLsbD_ushiftRight]
  -- Bit `i` comes from the byte it is in, and the other three bytes are clear there.
  rcases (by omega : i < 8 ∨ (8 ≤ i ∧ i < 16) ∨ (16 ≤ i ∧ i < 24) ∨ 24 ≤ i) with
    h | ⟨h, h'⟩ | ⟨h, h'⟩ | h
  · simp [hi, h, show i < 16 by omega, show i < 24 by omega]
  · simp [hi, h', show ¬i < 8 by omega, show i < 24 by omega, show i - 8 < 8 by omega,
      show i - 8 < 32 by omega, show 8 + (i - 8) = i by omega]
  · simp [hi, h', show ¬i < 8 by omega, show ¬i < 16 by omega, show ¬i - 8 < 8 by omega,
      show i - 16 < 8 by omega, show i - 16 < 32 by omega, show 16 + (i - 16) = i by omega]
  · simp [hi, show ¬i < 8 by omega, show ¬i < 16 by omega, show ¬i < 24 by omega,
      show ¬i - 8 < 8 by omega, show ¬i - 16 < 8 by omega, show i - 24 < 8 by omega,
      show i - 24 < 32 by omega, show 24 + (i - 24) = i by omega]

/-- A stored word is read back. -/
theorem Bytes.load_store_word {size : Nat} (memory : Bytes size) {offset : Nat} (value : UInt32)
    (h : offset + 4 ≤ size) : (memory.store .word offset value).load .word offset = value := by
  have h0 : offset < size := by omega
  have h1 : offset + 1 < size := by omega
  have h2 : offset + 2 < size := by omega
  have h3 : offset + 3 < size := by omega
  simp only [load, store, get_set]
  simp only [h0, h1, h2, h3, and_true, Nat.add_eq_left, Nat.add_left_cancel_iff,
    Nat.reduceEqDiff, if_true, if_false]
  exact word_of_bytes value

/-- A stored word leaves the words before and behind it. -/
theorem Bytes.load_store_word_of_disjoint {size : Nat} (memory : Bytes size) {offset other : Nat}
    (value : UInt32) (h : offset + 4 ≤ other ∨ other + 4 ≤ offset) :
    (memory.store .word offset value).load .word other = memory.load .word other := by
  have hbyte {i : Nat} (hi : other ≤ i ∧ i < other + 4) :
      (memory.store .word offset value).get i = memory.get i := by
    simp only [store, get_set]
    rw [if_neg (by omega), if_neg (by omega), if_neg (by omega), if_neg (by omega)]
  rw [load, load, hbyte (by omega), hbyte (by omega), hbyte (by omega), hbyte (by omega)]

/-- A memory in which some words are kept one after the other from an offset
on. -/
def Bytes.storeWords {size : Nat} (memory : Bytes size) (offset : Nat) :
    List UInt32 → Bytes size
  | [] => memory
  | word :: words => (memory.storeWords (offset + 4) words).store .word offset word

/-- Words kept one after the other are read back by their number. -/
theorem Bytes.load_storeWords {size : Nat} (memory : Bytes size) {offset i : Nat}
    {words : List UInt32} {word : UInt32} (hsize : offset + 4 * words.length ≤ size)
    (hword : words[i]? = some word) :
    (memory.storeWords offset words).load .word (offset + 4 * i) = word := by
  induction words generalizing offset i with
  | nil => cases hword
  | cons first words ih =>
    rw [List.length_cons] at hsize
    rw [storeWords]
    cases i with
    | zero =>
      rw [List.getElem?_cons_zero, Option.some.injEq] at hword
      rw [hword]
      exact load_store_word _ word (by omega)
    | succ i =>
      rw [List.getElem?_cons_succ] at hword
      rw [load_store_word_of_disjoint _ _ (by omega),
        show offset + 4 * (i + 1) = offset + 4 + 4 * i by omega]
      exact ih (by omega) hword

/-- A boot ROM whose first instruction word is `word`. The words after it are
zero and do nothing. -/
def Bios.ofWord (word : UInt32) : Bios := ⟨(Bytes.filled biosSize 0).store .word 0 word, "", ""⟩

/-- A boot ROM which holds a program, one instruction word after the other. -/
def Bios.ofWords (words : List UInt32) : Bios :=
  ⟨(Bytes.filled biosSize 0).storeWords 0 words, "", ""⟩

end Playstation
