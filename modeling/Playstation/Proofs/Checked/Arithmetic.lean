import Playstation.Cpu.Arithmetic
import Playstation.Proofs.Checked.Address

/-!
# Arithmetic of the processor, checked

Shifts, products and quotients have no result where the amount reaches the
width, the product does not fit into a double word, or the divisor is zero or
takes the least number to one past the greatest. A product of two words always
fits; the divisions look for the operands without a quotient first.
-/

namespace Playstation

/-- Shift a word by an amount below its width. -/
def ShiftOp.checkedApply (op : ShiftOp) (value amount : UInt32) : Option UInt32 :=
  match op with
  | sll => checkedShiftUp value amount.toNat
  | srl => checkedShiftDown value amount.toNat
  | sra =>
    if amount.toNat < 32 then some (value.toInt32 >>> amount.toInt32).toUInt32 else none

/-- The signed product of two words, if it fits. -/
def checkedSignedProduct (x y : UInt32) : Option UInt64 :=
  let product := x.toInt32.toInt * y.toInt32.toInt
  if -2 ^ 63 ≤ product ∧ product < 2 ^ 63 then
    some (x.toInt32.toInt64 * y.toInt32.toInt64).toUInt64
  else none

/-- The unsigned product of two words, if it fits. -/
def checkedProduct (x y : UInt32) : Option UInt64 :=
  if x.toNat * y.toNat < 2 ^ 64 then some (x.toUInt64 * y.toUInt64) else none

/-- The signed quotient and remainder of two words, if both exist and fit. -/
def checkedSignedQuotient (x y : UInt32) : Option WordPair :=
  if y.toInt32 = 0 ∨ (x.toInt32 = Int32.minValue ∧ y.toInt32 = -1) then none
  else some ⟨(x.toInt32 % y.toInt32).toUInt32, (x.toInt32 / y.toInt32).toUInt32⟩

/-- The unsigned quotient and remainder of two words, if they exist. -/
def checkedQuotient (x y : UInt32) : Option WordPair :=
  if y = 0 then none else some ⟨x % y, x / y⟩

/-- The result of a multiplication or division. -/
def MulDivOp.checkedApply (op : MulDivOp) (x y : UInt32) : Option WordPair :=
  match op with
  | mult => (checkedSignedProduct x y).map .ofDouble
  | multu => (checkedProduct x y).map .ofDouble
  | div =>
    if y = 0 then some ⟨x, if x.toInt32 < 0 then 1 else 0xffffffff⟩
    else if y = 0xffffffff ∧ x = 0x80000000 then some ⟨0, 0x80000000⟩
    else checkedSignedQuotient x y
  | divu => if y = 0 then some ⟨x, 0xffffffff⟩ else checkedQuotient x y

/-- The value for the register, from the value read at `address` and the value
`old` it is merged into. -/
def LoadOp.checkedCombine (op : LoadOp) (address old value : UInt32) : Option UInt32 :=
  match op, (address &&& 3).toNat with
  | lb, _ => some (extendByte value)
  | lh, _ => some (extendHalf value)
  | lw, _ | lbu, _ | lhu, _ => some value
  | lwl, 0 => do return (old &&& 0x00ffffff) ||| (← checkedShiftUp value 24)
  | lwl, 1 => do return (old &&& 0x0000ffff) ||| (← checkedShiftUp value 16)
  | lwl, 2 => do return (old &&& 0x000000ff) ||| (← checkedShiftUp value 8)
  | lwl, _ => some value
  | lwr, 0 => some value
  | lwr, 1 => do return (old &&& 0xff000000) ||| (← checkedShiftDown value 8)
  | lwr, 2 => do return (old &&& 0xffff0000) ||| (← checkedShiftDown value 16)
  | lwr, _ => do return (old &&& 0xffffff00) ||| (← checkedShiftDown value 24)

/-- The value for memory, from the register value and the word `old` it is
merged into. -/
def StoreOp.checkedCombine (op : StoreOp) (address old value : UInt32) : Option UInt32 :=
  match op, (address &&& 3).toNat with
  | sb, _ => some (value &&& 0xff)
  | sh, _ => some (value &&& 0xffff)
  | sw, _ => some value
  | swl, 0 => do return (old &&& 0xffffff00) ||| (← checkedShiftDown value 24)
  | swl, 1 => do return (old &&& 0xffff0000) ||| (← checkedShiftDown value 16)
  | swl, 2 => do return (old &&& 0xff000000) ||| (← checkedShiftDown value 8)
  | swl, _ => some value
  | swr, 0 => some value
  | swr, 1 => do return (old &&& 0x000000ff) ||| (← checkedShiftUp value 8)
  | swr, 2 => do return (old &&& 0x0000ffff) ||| (← checkedShiftUp value 16)
  | swr, _ => do return (old &&& 0x00ffffff) ||| (← checkedShiftUp value 24)

/-- An amount below the width shifts. -/
theorem ShiftOp.checkedApply_eq (op : ShiftOp) (value : UInt32) {amount : UInt32}
    (h : amount.toNat < 32) : op.checkedApply value amount = some (op.apply value amount) := by
  have hround : amount.toNat.toUInt32 = amount := UInt32.ofNat_toNat
  cases op with
  | sll =>
    rw [checkedApply, checkedShiftUp_eq _ h, apply]
    change some (value <<< amount.toNat.toUInt32) = _
    rw [hround]
  | srl =>
    rw [checkedApply, checkedShiftDown_eq _ h, apply]
    change some (value >>> amount.toNat.toUInt32) = _
    rw [hround]
  | sra => exact if_pos h

/-- A signed product of words fits into a double word. -/
theorem checkedSignedProduct_eq (x y : UInt32) :
    checkedSignedProduct x y = some (x.toInt32.toInt64 * y.toInt32.toInt64).toUInt64 := by
  have hword (z : UInt32) : z.toInt32.toInt.natAbs ≤ 2 ^ 31 := by
    have hleast := Int32.le_toInt z.toInt32
    have hgreatest := Int32.toInt_lt z.toInt32
    omega
  have hproduct : (x.toInt32.toInt * y.toInt32.toInt).natAbs ≤ 2 ^ 31 * 2 ^ 31 := by
    rw [Int.natAbs_mul]
    exact Nat.mul_le_mul (hword x) (hword y)
  refine if_pos ?_
  omega

/-- An unsigned product of words fits into a double word. -/
theorem checkedProduct_eq (x y : UInt32) :
    checkedProduct x y = some (x.toUInt64 * y.toUInt64) := by
  have hmul := Nat.mul_le_mul (Nat.le_pred_of_lt x.toNat_lt) (Nat.le_pred_of_lt y.toNat_lt)
  exact if_pos (Nat.lt_of_le_of_lt hmul (by decide))

/-- Every multiplication and division has a result. -/
theorem MulDivOp.checkedApply_eq (op : MulDivOp) (x y : UInt32) :
    op.checkedApply x y = some (op.apply x y) := by
  cases op with
  | mult =>
    rw [checkedApply, checkedSignedProduct_eq]
    rfl
  | multu =>
    rw [checkedApply, checkedProduct_eq]
    rfl
  | div =>
    have hback (z : UInt32) : z.toInt32.toUInt32 = z := rfl
    rw [checkedApply, apply]
    split
    · rfl
    · next hzero =>
      split
      · rfl
      · next hleast =>
        refine if_neg ?_
        rintro (hy | ⟨hx, hy⟩)
        · have hyz : y = 0 := by rw [← hback y, hy]; rfl
          exact hzero hyz
        · have hxz : x = 0x80000000 := by rw [← hback x, hx]; rfl
          have hyz : y = 0xffffffff := by rw [← hback y, hy]; rfl
          exact hleast ⟨hyz, hxz⟩
  | divu =>
    rw [checkedApply, apply]
    split
    · rfl
    · next hy => exact if_neg hy

/-- An address is zero to three bytes past a word. -/
theorem lowBits_cases (address : UInt32) :
    address &&& 3 = 0 ∨ address &&& 3 = 1 ∨ address &&& 3 = 2 ∨ address &&& 3 = 3 := by
  have hle := toNat_lowBits_le address
  simp only [← UInt32.toNat_inj]
  change _ = 0 ∨ _ = 1 ∨ _ = 2 ∨ _ = 3
  omega

/-- Merging a word moved up by nothing keeps none of the old one. -/
theorem merge_wholeUp (old value : UInt32) : (old &&& 0) ||| value <<< (0 : UInt32) = value := by
  rw [UInt32.and_zero, UInt32.zero_or, UInt32.shiftLeft_zero]

/-- Merging a word moved down by nothing keeps none of the old one. -/
theorem merge_wholeDown (old value : UInt32) : (old &&& 0) ||| value >>> (0 : UInt32) = value := by
  rw [UInt32.and_zero, UInt32.zero_or, UInt32.shiftRight_zero]

/-- A loaded value is merged at every address. -/
theorem LoadOp.checkedCombine_eq (op : LoadOp) (address old value : UInt32) :
    op.checkedCombine address old value = some (op.combine address old value) := by
  cases op with
  | lb | lh | lw | lbu | lhu => rfl
  | lwl =>
    rcases lowBits_cases address with hlow | hlow | hlow | hlow <;>
      simp only [checkedCombine, combine, byteShift, hlow]
    case inr.inr.inr => exact congrArg some (merge_wholeUp old value).symm
    all_goals rfl
  | lwr =>
    rcases lowBits_cases address with hlow | hlow | hlow | hlow <;>
      simp only [checkedCombine, combine, byteShift, hlow]
    case inl => exact congrArg some (merge_wholeDown old value).symm
    all_goals rfl

/-- A stored value is merged at every address. -/
theorem StoreOp.checkedCombine_eq (op : StoreOp) (address old value : UInt32) :
    op.checkedCombine address old value = some (op.combine address old value) := by
  cases op with
  | sb | sh | sw => rfl
  | swl =>
    rcases lowBits_cases address with hlow | hlow | hlow | hlow <;>
      simp only [checkedCombine, combine, byteShift, hlow]
    case inr.inr.inr => exact congrArg some (merge_wholeDown old value).symm
    all_goals rfl
  | swr =>
    rcases lowBits_cases address with hlow | hlow | hlow | hlow <;>
      simp only [checkedCombine, combine, byteShift, hlow]
    case inl => exact congrArg some (merge_wholeUp old value).symm
    all_goals rfl

end Playstation
