import Playstation.Cop0

/-!
# Entering an exception

What the system coprocessor holds after an exception has been entered, as
arithmetic on whole words: the six mode bits are shifted up by one mode, the
cause is replaced, and nothing else but the two addresses changes.
-/

namespace Playstation

namespace Cop0

open MachineWord

variable (cop0 : Cop0) (exception : Exception) (pc : UInt32) (inDelaySlot : Bool)

/-- The mode bits are shifted up by one mode, and all other bits are kept. -/
theorem enter_sr : (cop0.enter exception pc inDelaySlot).sr =
    (cop0.sr &&& ~~~(0x3f : UInt32)) ||| ((cop0.sr <<< 2) &&& 0x3f) := by
  have hmask : (0x3f : UInt32) = lowMask 6 := by decide
  have hshift (x : UInt32) : x <<< (2 : UInt32) = shiftUp x 2 := rfl
  rw [hmask]
  refine eq_of_getLsbD_eq fun i hi => ?_
  rw [enter, getLsbD_setBits _ _ (by decide) (by decide), getLsbD_or, getLsbD_and, getLsbD_and,
    getLsbD_not, getLsbD_lowMask (by decide) (by decide), hshift, hshift,
    toBits_shiftUp _ _ (by decide), toBits_shiftUp _ _ (by decide), BitVec.getLsbD_shiftLeft,
    BitVec.getLsbD_shiftLeft, getLsbD_bits _ (by decide) (by decide)]
  by_cases hmode : i < 6
  · simp [hi, hmode, show i ≤ 5 by omega, show i - 2 < 6 by omega, show i - 0 = i by omega]
  · simp [hi, hmode, show ¬i ≤ 5 by omega]

/-- The bits outside of the modes are kept. -/
theorem bit_enter_sr {i : Nat} (hlow : 6 ≤ i) (hhigh : i < 32) :
    bit (cop0.enter exception pc inDelaySlot).sr i = bit cop0.sr i := by
  rw [bit_eq _ _ hhigh, bit_eq _ _ hhigh, enter, getLsbD_setBits _ _ (by decide) (by decide),
    if_neg (by omega)]

/-- The cause is the number of the exception, with the top bit for a delay
slot. -/
theorem enter_cause : (cop0.enter exception pc inDelaySlot).cause =
    (exception.code <<< 2) ||| (if inDelaySlot then 0x80000000 else 0) := by
  change setBit (exception.code <<< 2) 31 inDelaySlot = _
  cases exception <;> rw [Exception.code] <;> cases inDelaySlot <;> decide

/-- The top bit of the cause tells of a delay slot. -/
theorem bit_enter_cause : bit (cop0.enter exception pc inDelaySlot).cause 31 = inDelaySlot := by
  rw [bit_eq _ _ (by decide), enter, getLsbD_setBit _ (by decide), if_pos rfl]

/-- The boot vectors are chosen as before. -/
theorem enter_handler : (cop0.enter exception pc inDelaySlot).handler =
    if bit cop0.sr 22 then 0xbfc00180 else 0x80000080 := by
  rw [handler, bootVectors, bit_enter_sr _ _ _ _ (by decide) (by decide)]

/-- The registers which describe no exception are kept. -/
theorem enter_read? {register : Nat} (h : register ∉ [8, 12, 13, 14]) :
    (cop0.enter exception pc inDelaySlot).read? register = cop0.read? register := by
  simp only [List.mem_cons, List.not_mem_nil, or_false, not_or] at h
  obtain ⟨h8, h12, h13, h14⟩ := h
  simp only [read?]
  split
  all_goals first | rfl | contradiction

end Cop0

end Playstation
