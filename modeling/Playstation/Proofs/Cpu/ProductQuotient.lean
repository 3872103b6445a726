import Playstation.Proofs.Checked.Step
import Playstation.Proofs.Cpu.Program

/-!
# Products and quotients

The multiplications leave the whole product of two words in the two result registers, and
the divisions a quotient and a remainder. What they leave is said here without the
operations that compute it: by the equation between product, quotient and remainder over
the integers, and by how small the remainder is. The main statement says so of the step
that executes one of these instructions, which has a result for all operands and changes
no other register than the one for which a load is on its way.
-/

namespace Playstation

/-- The signed number for which a word stands. -/
theorem toInt_toInt32 (x : UInt32) :
    x.toInt32.toInt = if x.toNat < 2 ^ 31 then (x.toNat : Int) else x.toNat - 2 ^ 32 := by
  have hcond : x.toInt32.toInt =
      if 2 * x.toNat < 2 ^ 32 then (x.toNat : Int) else x.toNat - (2 ^ 32 : Nat) :=
    BitVec.toInt_eq_toNat_cond x.toBitVec
  rw [hcond]
  split <;> split <;> omega

namespace WordPair

/-- Two words stand for a double word, the high one first. -/
theorem toNat_ofDouble (value : UInt64) :
    (ofDouble value).hi.toNat * 2 ^ 32 + (ofDouble value).lo.toNat = value.toNat := by
  have hbound := value.toNat_lt
  have hshift : (value >>> 32).toNat = value.toNat / 2 ^ 32 := by
    rw [UInt64.toNat_shiftRight]
    exact Nat.shiftRight_eq_div_pow _ _
  rw [ofDouble, UInt64.toNat_toUInt32, UInt64.toNat_toUInt32, hshift]
  omega

/-- If the double word is signed, its sign is that of the high word. -/
theorem toInt_ofDouble (value : UInt64) :
    (ofDouble value).hi.toInt32.toInt * 2 ^ 32 + (ofDouble value).lo.toNat =
      value.toInt64.toInt := by
  have hdouble := toNat_ofDouble value
  have hlow := (ofDouble value).lo.toNat_lt
  have hcond : value.toInt64.toInt =
      if 2 * value.toNat < 2 ^ 64 then (value.toNat : Int) else value.toNat - (2 ^ 64 : Nat) :=
    BitVec.toInt_eq_toNat_cond value.toBitVec
  rw [hcond, toInt_toInt32]
  split <;> split <;> omega

/-- A quotient and a remainder of signed words, with the quotient rounded toward zero. -/
structure DividesSigned (result : WordPair) (n d : UInt32) : Prop where
  /-- They make up the dividend over the integers, unless the quotient does not fit. -/
  exact (hd : d ≠ 0) (hfits : ¬(n = 0x80000000 ∧ d = 0xffffffff)) :
    n.toInt32.toInt = result.lo.toInt32.toInt * d.toInt32.toInt + result.hi.toInt32.toInt
  /-- The remainder is smaller than the divisor. -/
  small (hd : d ≠ 0) : result.hi.toInt32.toInt.natAbs < d.toInt32.toInt.natAbs
  /-- It is zero or has the sign of the dividend. -/
  sign (hd : d ≠ 0) : result.hi.toInt32.toInt = 0 ∨
    result.hi.toInt32.toInt.sign = n.toInt32.toInt.sign
  /-- A division by zero leaves one for a negative dividend and minus one for others. -/
  zero (hd : d = 0) : result.lo = if n.toInt32.toInt < 0 then 1 else 0xffffffff

/-- A quotient and a remainder of unsigned words. -/
structure DividesUnsigned (result : WordPair) (n d : UInt32) : Prop where
  /-- They make up the dividend over the integers. -/
  exact (hd : d ≠ 0) : n.toNat = result.lo.toNat * d.toNat + result.hi.toNat
  /-- The remainder is smaller than the divisor. -/
  small (hd : d ≠ 0) : result.hi < d

end WordPair

/-- What is left in the two result registers. Quotient and remainder make up the dividend
modulo the size of a word for every divisor. -/
def MulDivOp.Leaves (op : MulDivOp) (n d : UInt32) (result : WordPair) : Prop :=
  match op with
  | mult =>
    result.hi.toInt32.toInt * 2 ^ 32 + result.lo.toNat = n.toInt32.toInt * d.toInt32.toInt
  | multu => result.hi.toNat * 2 ^ 32 + result.lo.toNat = n.toNat * d.toNat
  | div => n = result.lo * d + result.hi ∧ result.DividesSigned n d
  | divu => n = result.lo * d + result.hi ∧ result.DividesUnsigned n d

namespace MulDivOp

/-- The signed product of two words is exact. -/
theorem leaves_mult (n d : UInt32) : mult.Leaves n d (mult.apply n d) := by
  have hfits := (Option.ite_none_right_eq_some.mp (checkedSignedProduct_eq n d)).1
  have hproduct : (n.toInt32.toInt64 * d.toInt32.toInt64).toInt =
      n.toInt32.toInt * d.toInt32.toInt := by
    rw [Int64.toInt_mul, Int32.toInt_toInt64, Int32.toInt_toInt64]
    exact Int.bmod_eq_of_le (by omega) (by omega)
  exact (WordPair.toInt_ofDouble _).trans hproduct

/-- The unsigned product of two words is exact. -/
theorem leaves_multu (n d : UInt32) : multu.Leaves n d (multu.apply n d) := by
  have hfits := (Option.ite_none_right_eq_some.mp (checkedProduct_eq n d)).1
  have hproduct : (n.toUInt64 * d.toUInt64).toNat = n.toNat * d.toNat := by
    rw [UInt64.toNat_mul, UInt32.toNat_toUInt64, UInt32.toNat_toUInt64, Nat.mod_eq_of_lt hfits]
  exact (WordPair.toNat_ofDouble _).trans hproduct

/-- An unsigned division by zero leaves the dividend, and any other one is exact. -/
theorem leaves_divu (n d : UInt32) : divu.Leaves n d (divu.apply n d) := by
  by_cases hd : d = 0
  · have hresult : divu.apply n d = ⟨n, 0xffffffff⟩ := if_pos hd
    rw [hresult, Leaves, hd, UInt32.mul_zero, UInt32.zero_add]
    exact ⟨rfl, (absurd rfl ·), (absurd rfl ·)⟩
  · have hresult : divu.apply n d = ⟨n % d, n / d⟩ := if_neg hd
    have hpos : 0 < d.toNat := Nat.pos_of_ne_zero fun h => hd (UInt32.toNat_inj.mp h)
    have hexact : n.toNat = n.toNat / d.toNat * d.toNat + n.toNat % d.toNat :=
      (Nat.div_add_mod' ..).symm
    rw [hresult]
    refine ⟨?_, fun _ => ?_, fun _ => ?_⟩
    · rw [← UInt32.toNat_inj, UInt32.toNat_add, UInt32.toNat_mul, UInt32.toNat_div,
        UInt32.toNat_mod, Nat.mod_add_mod, ← hexact, Nat.mod_eq_of_lt n.toNat_lt]
    · rw [UInt32.toNat_div, UInt32.toNat_mod]
      exact hexact
    · rw [UInt32.lt_iff_toNat_lt, UInt32.toNat_mod]
      exact Nat.mod_lt _ hpos

/-- A remainder of integers is zero or has the sign of the dividend. -/
theorem sign_tmod (a b : Int) : a.tmod b = 0 ∨ (a.tmod b).sign = a.sign := by
  rw [Int.sign_tmod]
  split
  · next hdvd => exact .inl (Int.tmod_eq_zero_of_dvd hdvd)
  · exact .inr rfl

/-- A signed division whose quotient fits is exact, and rounds toward zero. -/
theorem leaves_div_of_fits {n d : UInt32} (hd : d ≠ 0)
    (hfits : ¬(n = 0x80000000 ∧ d = 0xffffffff)) :
    div.Leaves n d ⟨(n.toInt32 % d.toInt32).toUInt32, (n.toInt32 / d.toInt32).toUInt32⟩ := by
  have hback (x : UInt32) : x.toInt32.toUInt32 = x := rfl
  have hforth (x : Int32) : x.toUInt32.toInt32 = x := rfl
  -- Only the least number divided by minus one has a quotient that wraps.
  have hquotient : (n.toInt32 / d.toInt32).toInt = n.toInt32.toInt.tdiv d.toInt32.toInt := by
    by_cases hleast : n.toInt32 = Int32.minValue
    · refine Int32.toInt_div_of_ne_right _ _ fun hminus => hfits ⟨?_, ?_⟩
      · rw [← hback n, hleast]
        rfl
      · rw [← hback d, hminus]
        rfl
    · exact Int32.toInt_div_of_ne_left _ _ hleast
  have hexact : n.toInt32.toInt = n.toInt32.toInt.tdiv d.toInt32.toInt * d.toInt32.toInt +
      n.toInt32.toInt.tmod d.toInt32.toInt := (Int.tdiv_mul_add_tmod ..).symm
  have hpos : 0 < d.toInt32.toInt.natAbs := by
    refine Int.natAbs_pos.mpr fun hzero => hd ?_
    rw [← hback d, Int32.toInt_inj.mp (hzero.trans Int32.toInt_zero.symm)]
    rfl
  have hwords : n.toInt32 = n.toInt32 / d.toInt32 * d.toInt32 + n.toInt32 % d.toInt32 := by
    rw [← Int32.toInt_inj, Int32.toInt_add, Int32.toInt_mul, hquotient, Int32.toInt_mod,
      Int.bmod_add_bmod, ← hexact]
    exact (Int32.toInt_bmod _).symm
  refine ⟨congrArg Int32.toUInt32 hwords, fun _ _ => ?_, fun _ => ?_, fun _ => ?_, (absurd · hd)⟩
  · change n.toInt32.toInt =
      (n.toInt32 / d.toInt32).toInt * d.toInt32.toInt + (n.toInt32 % d.toInt32).toInt
    rw [hquotient, Int32.toInt_mod]
    exact hexact
  · change (n.toInt32 % d.toInt32).toInt.natAbs < _
    rw [Int32.toInt_mod, Int.natAbs_tmod]
    exact Nat.mod_lt _ hpos
  · change (n.toInt32 % d.toInt32).toInt = 0 ∨ (n.toInt32 % d.toInt32).toInt.sign = _
    rw [Int32.toInt_mod]
    exact sign_tmod _ _

/-- A signed division by zero leaves the dividend, the one whose quotient does not fit leaves
no remainder, and any other one is exact. -/
theorem leaves_div (n d : UInt32) : div.Leaves n d (div.apply n d) := by
  by_cases hd : d = 0
  · have hresult : div.apply n d = ⟨n, if n.toInt32 < 0 then 1 else 0xffffffff⟩ := if_pos hd
    rw [hresult, Leaves, hd, UInt32.mul_zero, UInt32.zero_add]
    refine ⟨rfl, (absurd rfl ·), (absurd rfl ·), (absurd rfl ·), fun _ => ?_⟩
    exact if_congr Int32.lt_iff_toInt_lt rfl rfl
  · by_cases hfits : n = 0x80000000 ∧ d = 0xffffffff
    · obtain ⟨rfl, rfl⟩ := hfits
      have hresult : div.apply 0x80000000 0xffffffff = ⟨0, 0x80000000⟩ := rfl
      rw [hresult]
      exact ⟨by decide, fun _ hnone => absurd ⟨rfl, rfl⟩ hnone, fun _ => by decide,
        fun _ => .inl rfl, (absurd · hd)⟩
    · have hresult : div.apply n d =
          ⟨(n.toInt32 % d.toInt32).toUInt32, (n.toInt32 / d.toInt32).toUInt32⟩ :=
        (if_neg hd).trans (if_neg fun h => hfits h.symm)
      rw [hresult]
      exact leaves_div_of_fits hd hfits

/-- Every multiplication and division leaves what it should. -/
theorem leaves_apply (op : MulDivOp) (n d : UInt32) : op.Leaves n d (op.apply n d) := by
  cases op with
  | mult => exact leaves_mult n d
  | multu => exact leaves_multu n d
  | div => exact leaves_div n d
  | divu => exact leaves_divu n d

end MulDivOp

namespace Cpu

variable {cpu : Cpu} {word : InstructionWord} {op : MulDivOp} {rs rt : Register}

/-- The step of a multiplication or division meets no fault and leaves its two words. -/
theorem Fetches.step_mulDiv (hfetch : cpu.Fetches word) (hword : word.decode = .mulDiv op rs rt) :
    cpu.step.2 = none ∧
      WordPair.mk cpu.step.1.hi cpu.step.1.lo = op.apply (cpu.register rs) (cpu.register rt) := by
  rw [hfetch.step_of_perform (by rw [hword]; rfl), hword]
  exact ⟨rfl, rfl⟩

/-- It changes no register but the one for which a load is on its way. -/
theorem Fetches.registers_mulDiv {bios : Bios} (hreachable : Reachable bios cpu)
    (hfetch : cpu.Fetches word) (hword : word.decode = .mulDiv op rs rt) (register : Register) :
    cpu.step.1.register register =
      if register = cpu.pending.register ∧ register ≠ 0 then cpu.pending.value
      else cpu.register register := by
  have hlanded : cpu.step.1.visible = cpu.landed := by
    rw [(hfetch.commits hreachable.banks.1).registers, hword]
    rfl
  rw [Cpu.register, hlanded, hreachable.get_landed]

/-- The step of a multiplication leaves the exact product of its operands in the two result
registers, and that of a division leaves a quotient and a remainder, whatever the operands
are: they make up the dividend modulo the size of a word, and over the integers where the
divisor is not zero and the quotient fits, with a remainder that is smaller than the divisor
and, if it is signed and not zero, has the sign of the dividend. The quotient by zero is fixed.
No operation on the way is without a result. Nothing else of the processor changes by the
instruction, so that the registers are as they have been but for a load that lands. -/
theorem mulDiv_exact (hfetch : cpu.Fetches word) (hword : word.decode = .mulDiv op rs rt) :
    (cpu.step.2 = none ∧
      op.Leaves (cpu.register rs) (cpu.register rt) ⟨cpu.step.1.hi, cpu.step.1.lo⟩ ∧
      op.checkedApply (cpu.register rs) (cpu.register rt) =
        some ⟨cpu.step.1.hi, cpu.step.1.lo⟩) ∧
    ∀ bios, Reachable bios cpu →
      cpu.checkedStep = some cpu.step ∧
      ∀ register, cpu.step.1.register register =
        if register = cpu.pending.register ∧ register ≠ 0 then cpu.pending.value
        else cpu.register register := by
  obtain ⟨hfault, hresult⟩ := hfetch.step_mulDiv hword
  rw [hresult]
  refine ⟨⟨hfault, op.leaves_apply _ _, op.checkedApply_eq _ _⟩, fun bios hreachable => ?_⟩
  exact ⟨(checkedStep_eq hreachable.phase_valid).1, hfetch.registers_mulDiv hreachable hword⟩

/-- A program divides -458752 by 131072. The quotient is -3, not -4, and the remainder has
the sign of the dividend. -/
theorem mulDiv_exact_negative :
    let cpu := after (.ofWords [0x3c08fff9, 0x3c090002, 0x0109001a]) 2
    (cpu.step.1.lo = 0xfffffffd ∧ cpu.step.1.hi = 0xffff0000) ∧
    cpu.step.2 = none ∧
    cpu.checkedStep = some cpu.step ∧
    MulDivOp.div.Leaves 0xfff90000 0x00020000 ⟨cpu.step.1.hi, cpu.step.1.lo⟩ ∧
    cpu.step.1.register 9 = 0x00020000 := by
  obtain ⟨bios, hbios⟩ : ∃ bios, bios = Bios.ofWords [0x3c08fff9, 0x3c090002, 0x0109001a] :=
    ⟨_, rfl⟩
  rw [← hbios]
  intro cpu
  have hword : (InstructionWord.mk 0x0109001a).decode = .mulDiv .div 8 9 := by decide
  have hresult : MulDivOp.div.checkedApply 0xfff90000 0x00020000 =
      some ⟨0xffff0000, 0xfffffffd⟩ := by decide
  have hreachable : Reachable bios cpu := reachable_after bios 2
  obtain ⟨hfetch, hdividend, hdivisor, hpending⟩ : cpu.Fetches ⟨0x0109001a⟩ ∧
      cpu.register 8 = 0xfff90000 ∧ cpu.register 9 = 0x00020000 ∧ cpu.pending = .none :=
    @fetches_after_lui _ _ _ _ 0xfff9 0x0002 hbios (by decide) (by decide)
  clear_value cpu
  obtain ⟨⟨hfault, hleaves, happly⟩, hrest⟩ := mulDiv_exact hfetch hword
  obtain ⟨hchecked, hregisters⟩ := hrest bios hreachable
  rw [hdividend, hdivisor] at hleaves happly
  obtain ⟨hhi, hlo⟩ := WordPair.mk.inj (Option.some.inj (happly.symm.trans hresult))
  refine ⟨⟨hlo, hhi⟩, hfault, hchecked, hleaves, ?_⟩
  rw [hregisters 9, hpending, hdivisor]
  rfl

end Cpu

end Playstation
