import Playstation.Proofs.Width

/-!
# Fields of a register

A register keeps several fields in one word, and writing one of them leaves the
others. The lemmas say what is found in a field after a field has been
replaced: what was put there, if it is the same one, and what was there before,
if the two do not share a bit. Functions which replace bits of two disjoint
masks, each by values of their own, can be applied in any order.
-/

namespace Playstation

open MachineWord

section Words

variable {α : Type} [MachineWord α] {low high first last n : Nat}

/-- A field is what has been put there, as far as that fits. -/
theorem bits_setBits_same (x value : α) (hle : low ≤ high) (hhigh : high < width α) :
    bits (setBits x low high value) low high = bits value 0 (high - low) := by
  refine eq_of_getLsbD_eq fun i _ => ?_
  rw [getLsbD_bits _ hle hhigh, getLsbD_setBits _ _ hle hhigh,
    getLsbD_bits _ (Nat.zero_le _) (by omega), Nat.add_sub_cancel_left, Nat.zero_add, Nat.sub_zero]
  by_cases hinside : i < high - low + 1
  · rw [if_pos (by omega)]
  · rw [decide_eq_false hinside, Bool.and_false, Bool.and_false]

/-- A field which shares no bit with the one that is replaced is left. -/
theorem bits_setBits_disjoint (x value : α) (hle : low ≤ high) (hhigh : high < width α)
    (hfirst : first ≤ last) (hlast : last < width α) (hdisjoint : high < first ∨ last < low) :
    bits (setBits x low high value) first last = bits x first last := by
  refine eq_of_getLsbD_eq fun i _ => ?_
  rw [getLsbD_bits _ hfirst hlast, getLsbD_bits _ hfirst hlast, getLsbD_setBits _ _ hle hhigh]
  by_cases hinside : i < last - first + 1
  · rw [if_neg (by omega)]
  · rw [decide_eq_false hinside, Bool.and_false, Bool.and_false]

/-- The low bits of a word are the same in the field of them. -/
theorem bits_zero_bits (x : α) (hhigh : high < width α) :
    bits (bits x 0 high) 0 high = bits x 0 high := by
  refine eq_of_getLsbD_eq fun i _ => ?_
  rw [getLsbD_bits _ (Nat.zero_le _) hhigh, Nat.zero_add, getLsbD_bits _ (Nat.zero_le _) hhigh,
    Nat.zero_add, Bool.and_assoc, Bool.and_self]

/-- A field as a number. -/
theorem toNat_toBits_bits (x : α) (hle : low ≤ high) (hhigh : high < width α) :
    (toBits (bits x low high)).toNat = (toBits x).toNat / 2 ^ low % 2 ^ (high - low + 1) := by
  apply Nat.eq_of_testBit_eq
  intro i
  rw [Nat.testBit_mod_two_pow, Nat.testBit_div_two_pow]
  change (toBits (bits x low high)).getLsbD i = _
  rw [getLsbD_bits _ hle hhigh, Bool.and_comm, Nat.add_comm low]
  rfl

/-- Copying a field takes the positions inside it from the other word. -/
theorem getLsbD_setBits_bits {x value : α} (hle : low ≤ high) (hhigh : high < width α) (i : Nat) :
    (toBits (setBits x low high (bits value low high))).getLsbD i =
      if low ≤ i ∧ i ≤ high then (toBits value).getLsbD i else (toBits x).getLsbD i := by
  rw [getLsbD_setBits _ _ hle hhigh]
  refine if_ctx_congr Iff.rfl (fun hinside => ?_) fun _ => rfl
  rw [getLsbD_bits _ hle hhigh, Nat.add_sub_cancel' hinside.1, decide_eq_true (by omega),
    Bool.and_true]

/-- Copying a bit takes it from the other word. -/
theorem getLsbD_setBit_bit {x value : α} (hn : n < width α) (i : Nat) :
    (toBits (setBit x n (bit value n))).getLsbD i =
      if i = n then (toBits value).getLsbD i else (toBits x).getLsbD i := by
  rw [getLsbD_setBit _ hn]
  refine if_ctx_congr Iff.rfl (fun hsame => ?_) fun _ => rfl
  rw [hsame, bit_eq _ _ hn]

end Words

section Fields

variable {x value : UInt32} {low high first last n : Nat}

/-- A single bit is a bit of the vector. -/
theorem bit_eq_getLsbD (hn : n < 32) : bit x n = (toBits x).getLsbD n := bit_eq x n hn

/-- A field at the bottom is masked and not moved. -/
theorem bits_zero (x : UInt32) (high : Nat) : bits x 0 high = x &&& lowMask (high + 1) := by
  change x >>> 0 &&& lowMask (high - 0 + 1) = _
  rw [UInt32.shiftRight_zero, Nat.sub_zero]

/-- A field as a number. -/
theorem toNat_bits (x : UInt32) (hle : low ≤ high) (hhigh : high < 32) :
    (bits x low high).toNat = x.toNat / 2 ^ low % 2 ^ (high - low + 1) :=
  toNat_toBits_bits x hle hhigh

/-- A field is a number of as many bits as it has. -/
theorem toNat_bits_lt (hle : low ≤ high) (hhigh : high < 32) :
    (bits x low high).toNat < 2 ^ (high - low + 1) := by
  rw [toNat_bits x hle hhigh]
  exact Nat.mod_lt _ (Nat.two_pow_pos _)

/-- A field is zero if all its bits are clear. -/
theorem bits_eq_zero_iff (x : UInt32) (hle : low ≤ high) (hhigh : high < 32) :
    bits x low high = 0 ↔ ∀ i, low ≤ i → i ≤ high → bit x i = false := by
  have hzero (i : Nat) : (toBits (0 : UInt32)).getLsbD i = false := BitVec.getLsbD_zero
  constructor
  · intro h i hlow hi
    have hfield := getLsbD_bits x hle hhigh (i - low)
    rw [h, hzero, Nat.add_sub_cancel' hlow, decide_eq_true (by omega), Bool.and_true] at hfield
    rw [bit_eq_getLsbD (by omega), hfield]
  · intro h
    refine eq_of_getLsbD_eq fun i _ => ?_
    rw [getLsbD_bits x hle hhigh, hzero]
    by_cases hinside : i < high - low + 1
    · rw [← bit_eq_getLsbD (by omega), h (low + i) (by omega) (by omega), Bool.false_and]
    · rw [decide_eq_false hinside, Bool.and_false]

/-- A number which is moved up above another one is added to it. -/
theorem toNat_or_shiftLeft {below above amount : UInt32} (hamount : amount.toNat < 32)
    (hbelow : below.toNat < 2 ^ amount.toNat) (habove : above.toNat * 2 ^ amount.toNat < 2 ^ 32) :
    (below ||| above <<< amount).toNat = below.toNat + above.toNat * 2 ^ amount.toNat := by
  have hshift : (above <<< amount).toNat = 2 ^ amount.toNat * above.toNat := by
    rw [UInt32.toNat_shiftLeft, Nat.mod_eq_of_lt hamount, Nat.shiftLeft_eq, Nat.mod_eq_of_lt habove,
      Nat.mul_comm]
  rw [UInt32.toNat_or, hshift, Nat.or_comm, ← Nat.two_pow_add_eq_or_of_lt hbelow, Nat.add_comm,
    Nat.mul_comm]

/-- Two fields which follow each other make up one. -/
theorem bits_or_bits {amount : UInt32} {middle : Nat} (hamount : amount.toNat = middle + 1)
    (hlt : middle < last) (hlast : last < 32) :
    bits x 0 middle ||| bits x (middle + 1) last <<< amount = bits x 0 last := by
  have hlength : last - 0 + 1 = middle + 1 + (last - (middle + 1) + 1) := by omega
  have hbelow : (bits x 0 middle).toNat = x.toNat % 2 ^ (middle + 1) := by
    rw [toNat_bits x (Nat.zero_le _) (by omega), Nat.pow_zero, Nat.div_one, Nat.sub_zero]
  have habove : (bits x (middle + 1) last).toNat =
      x.toNat / 2 ^ (middle + 1) % 2 ^ (last - (middle + 1) + 1) := toNat_bits x hlt hlast
  have hall : (bits x 0 last).toNat = x.toNat % 2 ^ (middle + 1) +
      x.toNat / 2 ^ (middle + 1) % 2 ^ (last - (middle + 1) + 1) * 2 ^ (middle + 1) := by
    rw [toNat_bits x (Nat.zero_le _) hlast, Nat.pow_zero, Nat.div_one, hlength, Nat.pow_add,
      Nat.mod_mul, Nat.mul_comm]
  have hfits := (bits x 0 last).toNat_lt
  rw [hall] at hfits
  apply UInt32.toNat_inj.mp
  rw [toNat_or_shiftLeft (by omega), hamount, hbelow, habove, hall]
  · rw [hbelow, hamount]
    exact Nat.mod_lt _ (Nat.two_pow_pos _)
  · rw [habove, hamount]
    exact Nat.lt_of_le_of_lt (Nat.le_add_left _ _) hfits

/-- A field is put into a field of the same length. -/
@[simp] theorem bits_setBits_bits (hle : low ≤ high) (hhigh : high < 32) (hfirst : first ≤ last)
    (hlast : last < 32) (hlength : last - first = high - low) :
    bits (setBits x low high (bits value first last)) low high = bits value first last := by
  refine eq_of_getLsbD_eq fun i _ => ?_
  rw [getLsbD_bits _ hle hhigh, getLsbD_setBits _ _ hle hhigh, Nat.add_sub_cancel_left,
    getLsbD_bits _ hfirst hlast, hlength]
  by_cases hinside : i < high - low + 1
  · rw [if_pos (by omega), decide_eq_true hinside, Bool.and_true]
  · rw [decide_eq_false hinside, Bool.and_false, Bool.and_false]

/-- A field which is moved down already. -/
@[simp] theorem bits_bits (hfirst : first ≤ last) (hlast : last < 32)
    (hlength : last - first ≤ high) (hhigh : high < 32) :
    bits (bits x first last) 0 high = bits x first last := by
  refine eq_of_getLsbD_eq fun i _ => ?_
  rw [getLsbD_bits _ (Nat.zero_le _) hhigh, Nat.zero_add, getLsbD_bits _ hfirst hlast]
  by_cases hinside : i < last - first + 1
  · rw [decide_eq_true (show i < high - 0 + 1 by omega), Bool.and_true]
  · rw [decide_eq_false hinside, Bool.and_false, Bool.false_and]

/-- A part of a field which is moved down already. -/
@[simp] theorem bits_bits_of_le (hfirst : first ≤ last) (hlast : last ≤ high) (hhigh : high < 32) :
    bits (bits x 0 high) first last = bits x first last := by
  refine bits_congr hfirst (by omega) fun i hi hi' => ?_
  rw [getLsbD_bits _ (Nat.zero_le _) hhigh, Nat.zero_add, decide_eq_true (by omega), Bool.and_true]

/-- A bit of a field which is moved down already. -/
@[simp] theorem bit_bits (hn : n ≤ high) (hhigh : high < 32) : bit (bits x 0 high) n = bit x n := by
  rw [bit_eq_getLsbD (by omega), bit_eq_getLsbD (by omega), getLsbD_bits _ (Nat.zero_le _) hhigh,
    Nat.zero_add, decide_eq_true (by omega), Bool.and_true]

/-- Replacing a field leaves one which shares no bit with it. -/
@[simp] theorem bits_setBits_of_disjoint (hfirst : first ≤ last) (hlast : last < 32)
    (hle : low ≤ high) (hhigh : high < 32) (hdisjoint : high < first ∨ last < low) :
    bits (setBits x low high value) first last = bits x first last :=
  bits_setBits_disjoint x value hle hhigh hfirst hlast hdisjoint

/-- Replacing a bit leaves a field which it is not in. -/
@[simp] theorem bits_setBit_of_disjoint {flag : Bool} (hfirst : first ≤ last) (hlast : last < 32)
    (hn : n < 32) (hdisjoint : n < first ∨ last < n) :
    bits (setBit x n flag) first last = bits x first last := by
  refine bits_congr hfirst hlast fun i hi hi' => ?_
  rw [getLsbD_setBit _ hn, if_neg (by omega)]

/-- Replacing a bit of a field does so in the field. -/
theorem bits_setBit_of_mem {flag : Bool} (hle : low ≤ n) (hn : n ≤ high) (hhigh : high < 32) :
    bits (setBit x n flag) low high = setBit (bits x low high) (n - low) flag := by
  have hfield : low ≤ high := hle.trans hn
  refine eq_of_getLsbD_eq fun i _ => ?_
  rw [getLsbD_bits _ hfield hhigh, getLsbD_setBit _ (by change n < 32; omega),
    getLsbD_setBit _ (by change n - low < 32; omega), getLsbD_bits _ hfield hhigh]
  by_cases hi : i = n - low
  · rw [if_pos hi, if_pos (by omega), decide_eq_true (by omega), Bool.and_true]
  · rw [if_neg hi, if_neg (by omega)]

/-- A bit is what has been put there. -/
@[simp] theorem bit_setBit {flag : Bool} (hn : n < 32) : bit (setBit x n flag) n = flag := by
  rw [bit_eq_getLsbD hn, getLsbD_setBit _ hn, if_pos rfl]

/-- Replacing a bit leaves the others. -/
@[simp] theorem bit_setBit_of_ne {m : Nat} {flag : Bool} (hn : n < 32) (hm : m < 32) (hne : m ≠ n) :
    bit (setBit x n flag) m = bit x m := by
  rw [bit_eq_getLsbD hm, getLsbD_setBit _ hn, if_neg hne, bit_eq_getLsbD hm]

/-- Replacing a field leaves a bit which is not in it. -/
@[simp] theorem bit_setBits_of_disjoint (hle : low ≤ high) (hhigh : high < 32) (hn : n < 32)
    (hdisjoint : n < low ∨ high < n) : bit (setBits x low high value) n = bit x n := by
  rw [bit_eq_getLsbD hn, getLsbD_setBits _ _ hle hhigh, if_neg (by omega), bit_eq_getLsbD hn]

/-- A field survives in a shorter word that has room for it. -/
theorem setWidth_bits (hle : low ≤ high) (hhigh : high < 32)
    (hlength : high - low < n) :
    ((toBits (bits x low high)).setWidth n).setWidth 32 = toBits (bits x low high) := by
  apply BitVec.eq_of_getLsbD_eq
  intro i hi
  rw [BitVec.getLsbD_setWidth, BitVec.getLsbD_setWidth, getLsbD_bits _ hle hhigh]
  by_cases hinside : i < high - low + 1
  · have hroom : i < n := by omega
    simp [hi, hroom]
  · simp [hinside]

/-- A field of up to sixteen bits is kept in a halfword. -/
theorem toUInt32_toUInt16_bits (hle : low ≤ high) (hhigh : high < 32)
    (hlength : high - low < 16) : (bits x low high).toUInt16.toUInt32 = bits x low high :=
  toBits_injective _ _ (setWidth_bits hle hhigh hlength)

/-- A field of up to eight bits is kept in a byte. -/
theorem toUInt32_toUInt8_bits (hle : low ≤ high) (hhigh : high < 32)
    (hlength : high - low < 8) : (bits x low high).toUInt8.toUInt32 = bits x low high :=
  toBits_injective _ _ (setWidth_bits hle hhigh hlength)

end Fields

/-- A function on words replaces bits of a mask, by values which do not depend
on the word, and leaves the others. -/
def Puts (mask : UInt32) (f : UInt32 → UInt32) : Prop :=
  ∀ i < 32, (∀ x, (toBits (f x)).getLsbD i = (toBits x).getLsbD i) ∨
    ((toBits mask).getLsbD i = true ∧ ∃ value, ∀ x, (toBits (f x)).getLsbD i = value)

namespace Puts

variable {mask other : UInt32} {f g : UInt32 → UInt32}

/-- Leaving the word as it is replaces nothing. -/
theorem id (mask : UInt32) : Puts mask fun x => x := fun _ _ => .inl fun _ => rfl

/-- Replacing a field whose bits the mask holds. -/
theorem setBits {low high : Nat} (value : UInt32) (hle : low ≤ high) (hhigh : high < 32)
    (hmask : ∀ i ≤ high, low ≤ i → (toBits mask).getLsbD i = true) :
    Puts mask fun x => Playstation.setBits x low high value := by
  intro i _
  by_cases hinside : low ≤ i ∧ i ≤ high
  · refine .inr ⟨hmask i hinside.2 hinside.1, (toBits value).getLsbD (i - low), fun x => ?_⟩
    rw [getLsbD_setBits _ _ hle hhigh, if_pos hinside]
  · refine .inl fun x => ?_
    rw [getLsbD_setBits _ _ hle hhigh, if_neg hinside]

/-- Replacing a bit which the mask holds. -/
theorem setBit {n : Nat} (flag : Bool) (hn : n < 32) (hmask : (toBits mask).getLsbD n = true) :
    Puts mask fun x => Playstation.setBit x n flag := by
  intro i _
  by_cases hsame : i = n
  · refine .inr ⟨hsame ▸ hmask, flag, fun x => ?_⟩
    rw [getLsbD_setBit _ hn, if_pos hsame]
  · refine .inl fun x => ?_
    rw [getLsbD_setBit _ hn, if_neg hsame]

/-- Replacing bits of a mask twice. -/
theorem comp (hf : Puts mask f) (hg : Puts mask g) : Puts mask fun x => f (g x) := by
  intro i hi
  rcases hf i hi with hkept | ⟨hmask, value, hput⟩
  · rcases hg i hi with hkept' | ⟨hmask, value, hput⟩
    · exact .inl fun x => (hkept _).trans (hkept' x)
    · exact .inr ⟨hmask, value, fun x => (hkept _).trans (hput x)⟩
  · exact .inr ⟨hmask, value, fun x => hput _⟩

/-- A bit of one mask is not one of a mask which is disjoint from it. -/
theorem not_mem_of_disjoint {i : Nat} (hdisjoint : mask &&& other = 0)
    (hmask : (toBits mask).getLsbD i = true) : (toBits other).getLsbD i = false := by
  have hboth := congrArg (fun y => (toBits y).getLsbD i) hdisjoint
  simp only [getLsbD_and, hmask, Bool.true_and] at hboth
  exact hboth.trans BitVec.getLsbD_zero

/-- Bits of disjoint masks are replaced in any order. -/
theorem comm (hf : Puts mask f) (hg : Puts other g) (hdisjoint : mask &&& other = 0) (x : UInt32) :
    f (g x) = g (f x) := by
  refine eq_of_getLsbD_eq fun i hi => ?_
  rcases hf i hi with hkept | ⟨hmask, value, hput⟩
  · rcases hg i hi with hkept' | ⟨-, value, hput⟩
    · rw [hkept, hkept', hkept', hkept]
    · rw [hkept, hput, hput]
  · rcases hg i hi with hkept | ⟨hother, -⟩
    · rw [hput, hkept, hput]
    · rw [not_mem_of_disjoint hdisjoint hmask] at hother
      cases hother

/-- Bits outside the mask stay. -/
theorem and_of_disjoint (hf : Puts mask f) (hdisjoint : mask &&& other = 0) (x : UInt32) :
    f x &&& other = x &&& other := by
  refine eq_of_getLsbD_eq fun i hi => ?_
  rw [getLsbD_and, getLsbD_and]
  rcases hf i hi with hkept | ⟨hmask, -⟩
  · rw [hkept]
  · rw [not_mem_of_disjoint hdisjoint hmask, Bool.and_false, Bool.and_false]

end Puts

end Playstation
