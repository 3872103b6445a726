import Playstation.Proofs.Cpu.AfterFault
import Playstation.Proofs.Cpu.Alignment
import Playstation.Proofs.Field

/-!
# Trapping and wrapping arithmetic

Three instructions trap where their signed sum or difference does not fit into a word, and
for each of them there is one which wraps around. The words of the two differ in one bit.
The main statement is that the exception is raised exactly where the result over the
integers does not fit, that the step which raises it writes no register but the one for
which a load is on its way, and that every other step is that of the wrapping instruction.
-/

namespace Playstation

/-- The instructions which trap where their result does not fit. -/
inductive TrapOp where
  /-- Sum of two registers. -/
  | add
  /-- Difference of two registers. -/
  | sub
  /-- Sum of a register and an immediate value. -/
  | addi
  deriving DecidableEq

namespace InstructionWord

/-- Whether a word selects a trapping instruction by its operation and its function. -/
def Selects (word : InstructionWord) (op : TrapOp) : Prop :=
  match op with
  | .add => word.op = 0x00 ∧ word.function = 0x20
  | .sub => word.op = 0x00 ∧ word.function = 0x22
  | .addi => word.op = 0x08

/-- The immediate value as a signed number of sixteen bits. -/
def immediate (word : InstructionWord) : Int := word.imm.toUInt16.toInt16.toInt

/-- Extending the sign of the immediate value keeps the number. -/
theorem toInt_signedImm (word : InstructionWord) :
    word.signedImm.toInt32.toInt = word.immediate :=
  Int16.toInt_toInt32 _

end InstructionWord

namespace TrapOp

/-- The trapping instruction with the registers and the immediate value of a word. -/
def trapping (op : TrapOp) (word : InstructionWord) : Instruction :=
  match op with
  | add => .alu .add word.rd word.rs word.rt
  | sub => .alu .sub word.rd word.rs word.rt
  | addi => .immediate .addi word.rt word.rs word.signedImm

/-- The wrapping instruction with the same registers and immediate value. -/
def wrapping (op : TrapOp) (word : InstructionWord) : Instruction :=
  match op with
  | add => .alu .addu word.rd word.rs word.rt
  | sub => .alu .subu word.rd word.rs word.rt
  | addi => .immediate .addiu word.rt word.rs word.signedImm

/-- The bit which is set in the word of the wrapping instruction only. It is in the function
or in the operation. -/
def position : TrapOp → Nat
  | add | sub => 0
  | addi => 26

/-- The word of the wrapping instruction. -/
def counterpart (op : TrapOp) (word : InstructionWord) : InstructionWord :=
  ⟨setBit word.value op.position true⟩

/-- The register for the result. -/
def target (op : TrapOp) (word : InstructionWord) : Register :=
  match op with
  | add | sub => word.rd
  | addi => word.rt

/-- The sum or difference of the signed operands over the integers. -/
def exact (op : TrapOp) (cpu : Cpu) (word : InstructionWord) : Int :=
  match op with
  | add => (cpu.register word.rs).toInt32.toInt + (cpu.register word.rt).toInt32.toInt
  | sub => (cpu.register word.rs).toInt32.toInt - (cpu.register word.rt).toInt32.toInt
  | addi => (cpu.register word.rs).toInt32.toInt + word.immediate

/-- The sum or difference of the words. -/
def wrapped (op : TrapOp) (cpu : Cpu) (word : InstructionWord) : UInt32 :=
  match op with
  | add => cpu.register word.rs + cpu.register word.rt
  | sub => cpu.register word.rs - cpu.register word.rt
  | addi => cpu.register word.rs + word.signedImm

variable {word : InstructionWord} {op : TrapOp}

/-- The word of a trapping instruction is decoded as that. -/
theorem decode_of_selects (h : word.Selects op) : word.decode = op.trapping word := by
  cases op with
  | add | sub =>
    obtain ⟨hop, hfunction⟩ := h
    rw [InstructionWord.decode, hop]
    change word.decodeFunction = _
    rw [InstructionWord.decodeFunction, hfunction]
    rfl
  | addi =>
    have hselects : word.op = 0x08 := h
    rw [InstructionWord.decode, hselects]
    rfl

/-- A field without the one bit is the same in both words. -/
theorem bits_counterpart {low high : Nat} (hle : low ≤ high) (hhigh : high < 32)
    (h : op.position < low ∨ high < op.position) :
    bits (op.counterpart word).value low high = bits word.value low high :=
  bits_setBit_of_disjoint hle hhigh (by cases op <;> decide) h

/-- The one bit is in none of the fields which name registers. -/
theorem registers_counterpart (op : TrapOp) (word : InstructionWord) :
    (op.counterpart word).rs = word.rs ∧ (op.counterpart word).rt = word.rt ∧
      (op.counterpart word).rd = word.rd := by
  have hfield {low high : Nat} (hlow : 1 ≤ low) (hle : low ≤ high) (hhigh : high ≤ 25) :
      bits (op.counterpart word).value low high = bits word.value low high := by
    refine bits_counterpart hle (by omega) ?_
    cases op with
    | add | sub => exact .inl hlow
    | addi => exact .inr (Nat.lt_succ_of_le hhigh)
  rw [InstructionWord.rs, InstructionWord.rt, InstructionWord.rd, hfield, hfield, hfield]
  · exact ⟨rfl, rfl, rfl⟩
  all_goals decide

/-- The one bit is the lowest of the function or of the operation. -/
theorem selection_counterpart (op : TrapOp) (word : InstructionWord) :
    (op.counterpart word).op = (if op = addi then setBit word.op 0 true else word.op) ∧
      (op.counterpart word).function =
        if op = addi then word.function else setBit word.function 0 true := by
  cases op with
  | add | sub =>
    exact ⟨bits_counterpart (by decide) (by decide) (by decide),
      bits_setBit_of_mem (by decide) (by decide) (by decide)⟩
  | addi =>
    exact ⟨bits_setBit_of_mem (by decide) (by decide) (by decide),
      bits_counterpart (by decide) (by decide) (by decide)⟩

/-- It makes the word that of a wrapping instruction with the same fields. -/
theorem decode_counterpart (h : word.Selects op) :
    (op.counterpart word).decode = op.wrapping word := by
  obtain ⟨hrs, hrt, hrd⟩ := op.registers_counterpart word
  obtain ⟨hop, hfunction⟩ := op.selection_counterpart word
  cases op with
  | add | sub =>
    obtain ⟨hfirst, hselects⟩ := h
    rw [if_neg (by decide), hfirst] at hop
    rw [if_neg (by decide), hselects] at hfunction
    rw [InstructionWord.decode, hop]
    change InstructionWord.decodeFunction _ = _
    rw [InstructionWord.decodeFunction, hfunction, hrs, hrt, hrd]
    rfl
  | addi =>
    have himm : (counterpart .addi word).signedImm = word.signedImm := by
      rw [InstructionWord.signedImm, bits_counterpart (by decide) (by decide) (by decide)]
      rfl
    have hselects : word.op = 0x08 := h
    rw [if_pos rfl, hselects] at hop
    rw [InstructionWord.decode, hop]
    change InstructionWord.decodeImmediate _ .addiu = _
    rw [InstructionWord.decodeImmediate, himm, hrs, hrt]
    rfl

/-- The word that is computed stands for the exact result, taken modulo the size of a word. -/
theorem toInt_wrapped (op : TrapOp) (cpu : Cpu) (word : InstructionWord) :
    (op.wrapped cpu word).toInt32.toInt = (op.exact cpu word).bmod (2 ^ 32) := by
  cases op with
  | add => exact Int32.toInt_add _ _
  | sub => exact Int32.toInt_sub _ _
  | addi =>
    rw [exact, ← word.toInt_signedImm]
    exact Int32.toInt_add _ _

end TrapOp

/-- A number fits into a word exactly if it stays the same modulo the size of a word. -/
theorem fitsSigned_iff (value : Int) : fitsSigned value = true ↔ value.bmod (2 ^ 32) = value := by
  have hlow : -(2 ^ 31 : Int) ≤ value.bmod (2 ^ 32) := Int.le_bmod (by decide)
  have hhigh : value.bmod (2 ^ 32) < 2 ^ 31 := Int.bmod_lt (by decide)
  rw [fitsSigned, Bool.and_eq_true, decide_eq_true_iff, decide_eq_true_iff]
  constructor
  · rintro ⟨hmin, hmax⟩
    exact Int.bmod_eq_of_le (by omega) (by omega)
  · intro hsame
    omega

namespace Cpu

variable {cpu : Cpu} {word : InstructionWord} {op : TrapOp}

/-- Whether there is an exception depends on nothing but whether the exact result fits. -/
theorem exception?_trapping (cpu : Cpu) (op : TrapOp) (word : InstructionWord) :
    cpu.exception? (op.trapping word) =
      if fitsSigned (op.exact cpu word) then none else some .arithmeticOverflow := by
  cases op with
  | add | sub =>
    rw [TrapOp.trapping, exception?, AluOp.traps, TrapOp.exact]
    cases fitsSigned _ <;> rfl
  | addi =>
    rw [TrapOp.trapping, exception?, ImmOp.traps, TrapOp.exact, word.toInt_signedImm]
    cases fitsSigned _ <;> rfl

/-- Without an exception, both instructions write the same word to the same register. -/
theorem perform_trapping (cpu : Cpu) (op : TrapOp) (word : InstructionWord) :
    cpu.perform (op.trapping word) =
        (cpu.setRegister (op.target word) (op.wrapped cpu word), none) ∧
      cpu.execute (op.wrapping word) =
        (cpu.setRegister (op.target word) (op.wrapped cpu word), none) := by
  cases op <;> exact ⟨rfl, rfl⟩

/-- The operands are read before the load that is on its way has landed. -/
theorem wrapped_landed (cpu : Cpu) (op : TrapOp) (word : InstructionWord) :
    op.wrapped cpu.fetched.landPending word = op.wrapped cpu word := by
  cases op <;> rfl

/-- The step on the wrapping counterpart writes the sum or difference of the words. -/
theorem stepOn_counterpart (cpu : Cpu) (h : word.Selects op) :
    cpu.stepOn (op.counterpart word) =
      ((cpu.fetched.landPending.setRegister (op.target word) (op.wrapped cpu word)).commit,
        none) := by
  rw [stepOn, TrapOp.decode_counterpart h, (perform_trapping _ op word).2, wrapped_landed]

/-- An exception is raised by the word that is fetched. -/
theorem Fetches.raises_iff {exception : Exception} (hfetch : cpu.Fetches word) :
    cpu.Raises exception ↔ cpu.exception? word.decode = some exception := by
  refine ⟨fun h => ?_, hfetch.raises⟩
  rcases h.cases with ⟨haligns, -⟩ | ⟨other, hother, hraise⟩
  · exact absurd (hfetch.aligns.symm.trans haligns) Bool.noConfusion
  · rwa [hfetch.unique hother]

/-- What a step leaves which raises the exception of an overflow. -/
structure Overflows (cpu : Cpu) : Prop where
  /-- The handler is entered, which is no fault of the host. -/
  enters : cpu.Enters .arithmeticOverflow
  /-- The cause has the number of the exception. -/
  cause : bits cpu.step.1.cop0.cause 2 6 = 0xc
  /-- No register is written but the one for which a load is on its way. -/
  registers (register : Register) : cpu.step.1.register register =
    if register = 0 then 0
    else if register = cpu.pending.register then cpu.pending.value
    else cpu.output.get register

/-- What a step leaves which is that of another word. -/
structure AgreesWith (cpu : Cpu) (other : InstructionWord) : Prop where
  /-- No exception is raised. -/
  quiet (exception : Exception) : ¬cpu.Raises exception
  /-- Every part of the state is as the other word leaves it. -/
  same : cpu.step = cpu.stepOn other
  /-- So it is when the other word is fetched from another bus, but for that bus. -/
  twin (bus : Bus) (h : { cpu with bus }.Fetches other) :
    { cpu with bus }.step = ({ cpu.step.1 with bus := (bus.load .word cpu.pc).1 }, none)

/-- Whatever the banks hold, the exception of an overflow does nothing else. -/
theorem Raises.overflows (h : cpu.Raises .arithmeticOverflow) : cpu.Overflows := by
  have henters := h.enters
  have hlanded : cpu.step.1.visible = cpu.fetched.landPending.output := by
    rcases h.cases with ⟨-, hnone⟩ | ⟨word, hfetch, hraise⟩
    · exact Exception.noConfusion hnone
    · rw [hfetch.step_of_exception hraise]
      rfl
  refine ⟨henters, ?_, fun register => ?_⟩
  · rw [henters.cop0, Cop0.enter_cause, Exception.code]
    cases cpu.branching <;> decide
  · rw [Cpu.register, hlanded]
    exact get_landPending cpu.fetched register

/-- Where the exact result fits, the step of the trapping instruction is that of its
counterpart. -/
theorem Fetches.agrees (hfetch : cpu.Fetches word) (hop : word.Selects op)
    (hfits : fitsSigned (op.exact cpu word) = true) :
    cpu.AgreesWith (op.counterpart word) := by
  have hnone : cpu.exception? word.decode = none := by
    rw [TrapOp.decode_of_selects hop, exception?_trapping, if_pos hfits]
  have hstep : cpu.step = cpu.stepOn (op.counterpart word) := by
    rw [hfetch.step_of_perform hnone, TrapOp.decode_of_selects hop, (perform_trapping _ op word).1,
      wrapped_landed, stepOn_counterpart cpu hop]
  refine ⟨fun exception hraise => ?_, hstep, fun bus hother => ?_⟩
  · rw [hfetch.raises_iff, hnone] at hraise
    cases hraise
  · -- Neither the operands nor the load that lands come from the bus.
    have htwin : { cpu with bus }.step = { cpu with bus }.stepOn (op.counterpart word) :=
      hother.step_eq
    have hwrapped : op.wrapped { cpu with bus } word = op.wrapped cpu word := by
      cases op <;> rfl
    rw [htwin, stepOn_counterpart _ hop, hstep, stepOn_counterpart _ hop, hwrapped]
    rfl

/-- The wrapping counterpart leaves the exact result exactly where that fits. -/
theorem exact_stepOn_iff (cpu : Cpu) (hop : word.Selects op) (htarget : op.target word ≠ 0) :
    ((cpu.stepOn (op.counterpart word)).1.register (op.target word)).toInt32.toInt =
      op.exact cpu word ↔ fitsSigned (op.exact cpu word) = true := by
  have hregister : (cpu.stepOn (op.counterpart word)).1.register (op.target word) =
      op.wrapped cpu word := by
    rw [stepOn_counterpart cpu hop]
    refine (RegisterBank.get_write _ _ _ _).trans ?_
    rw [if_neg htarget, if_pos rfl]
  rw [hregister, op.toInt_wrapped, fitsSigned_iff]

/-- The words of the trapping and of the wrapping instruction have the same fields. The
trapping one raises its exception if and only if the result over the integers does not fit
into a word, which is where the wrapping one leaves another number. Then the register for the
result keeps its value, as all others do, unless a load is on its way to it. Otherwise the
step leaves the whole state as that of the wrapping instruction does. -/
theorem trapping_wraps (hfetch : cpu.Fetches word) (hop : word.Selects op) :
    (word.decode = op.trapping word ∧ (op.counterpart word).decode = op.wrapping word) ∧
    (cpu.Raises .arithmeticOverflow ↔
      ¬(-2 ^ 31 ≤ op.exact cpu word ∧ op.exact cpu word ≤ 2 ^ 31 - 1)) ∧
    (op.target word ≠ 0 → (cpu.Raises .arithmeticOverflow ↔
      ((cpu.stepOn (op.counterpart word)).1.register (op.target word)).toInt32.toInt ≠
        op.exact cpu word)) ∧
    (cpu.Raises .arithmeticOverflow → cpu.Overflows ∧
      ∀ bios, Reachable bios cpu → ∀ register, cpu.step.1.register register =
        if register = cpu.pending.register ∧ register ≠ 0 then cpu.pending.value
        else cpu.register register) ∧
    (¬cpu.Raises .arithmeticOverflow → cpu.AgreesWith (op.counterpart word)) := by
  have hdecode := TrapOp.decode_of_selects hop
  -- The exception is decided by the same test on which the wrapped result is exact.
  have hraises : cpu.Raises .arithmeticOverflow ↔ ¬fitsSigned (op.exact cpu word) = true := by
    rw [hfetch.raises_iff, hdecode, exception?_trapping]
    cases fitsSigned _ <;> decide
  refine ⟨⟨hdecode, TrapOp.decode_counterpart hop⟩, ?_, fun htarget => ?_, fun h => ?_, fun h => ?_⟩
  · rw [hraises, fitsSigned, Bool.and_eq_true, decide_eq_true_iff, decide_eq_true_iff]
    exact Iff.rfl
  · rw [hraises, ne_eq, exact_stepOn_iff cpu hop htarget]
  · refine ⟨h.overflows, fun bios hreachable register => ?_⟩
    rw [Cpu.register, (h.precise hreachable.banks.1).registers, hreachable.get_landed]
  · exact hfetch.agrees hop (not_not.mp (hraises.not.mp h))

/-- With 0x7fff0000 and 0x00010000 in two registers, their sum traps and leaves the register
for it. Their difference does not, and the step from the same state agrees where the word of
the wrapping instruction is in the boot ROM. -/
theorem trapping_wraps_upperHalves :
    let sum := after (.ofWords [0x3c087fff, 0x3c090001, 0x01095020]) 2
    let difference := after (.ofWords [0x3c087fff, 0x3c090001, 0x01095022]) 2
    let wrapping := after (.ofWords [0x3c087fff, 0x3c090001, 0x01095023]) 2
    (sum.Overflows ∧ sum.step.1.register 10 = sum.register 10) ∧
      difference.step = difference.stepOn ⟨0x01095023⟩ ∧
      { difference with bus := wrapping.bus }.step.2 = none ∧
      (difference.step.1.register 10).toInt32.toInt = 0x7ffe0000 := by
  have hfirst : (InstructionWord.mk 0x3c087fff).decode = .lui 8 0x7fff := by decide
  have hsecond : (InstructionWord.mk 0x3c090001).decode = .lui 9 0x0001 := by decide
  have hcounterpart : TrapOp.sub.counterpart ⟨0x01095022⟩ = ⟨0x01095023⟩ := by decide
  obtain ⟨sumBios, hsumBios⟩ :
      ∃ bios, bios = Bios.ofWords [0x3c087fff, 0x3c090001, 0x01095020] := ⟨_, rfl⟩
  obtain ⟨differenceBios, hdifferenceBios⟩ :
      ∃ bios, bios = Bios.ofWords [0x3c087fff, 0x3c090001, 0x01095022] := ⟨_, rfl⟩
  obtain ⟨wrappingBios, hwrappingBios⟩ :
      ∃ bios, bios = Bios.ofWords [0x3c087fff, 0x3c090001, 0x01095023] := ⟨_, rfl⟩
  rw [← hsumBios, ← hdifferenceBios, ← hwrappingBios]
  intro sum difference wrapping
  refine ⟨?_, ?_⟩
  · have hreachable : Reachable sumBios sum := reachable_after sumBios 2
    obtain ⟨hfetch, haugend, haddend, hpending⟩ : sum.Fetches ⟨0x01095020⟩ ∧
        sum.register 8 = 0x7fff0000 ∧ sum.register 9 = 0x00010000 ∧ sum.pending = .none :=
      @fetches_after_lui _ _ _ _ 0x7fff 0x0001 hsumBios hfirst hsecond
    clear_value sum
    have hexact : TrapOp.add.exact sum ⟨0x01095020⟩ = 0x80000000 := by
      change (sum.register 8).toInt32.toInt + (sum.register 9).toInt32.toInt = _
      rw [haugend, haddend]
      decide
    obtain ⟨-, hraises, -, hoverflows, -⟩ :=
      @trapping_wraps _ _ .add hfetch ⟨by decide, by decide⟩
    rw [hexact] at hraises
    obtain ⟨hleaves, hregisters⟩ := hoverflows (hraises.mpr (by decide))
    refine ⟨hleaves, ?_⟩
    rw [hregisters _ hreachable 10, hpending]
    rfl
  · obtain ⟨hfetch, hminuend, hsubtrahend, -⟩ : difference.Fetches ⟨0x01095022⟩ ∧
        difference.register 8 = 0x7fff0000 ∧ difference.register 9 = 0x00010000 ∧
          difference.pending = .none :=
      @fetches_after_lui _ _ _ _ 0x7fff 0x0001 hdifferenceBios hfirst hsecond
    have hpc : difference.pc = programAddress 2 :=
      congrArg OneBank.pc (oneBank_after_lui hdifferenceBios hfirst hsecond)
    have hbios : wrapping.bus.bios = wrappingBios :=
      congrArg (fun machine => machine.bus.bios) (oneBank_after_lui hwrappingBios hfirst hsecond)
    clear_value difference wrapping
    have hload : (wrapping.bus.load .word difference.pc).2 = .ok 0x01095023 := by
      rw [hpc, load_programAddress (hbios.trans hwrappingBios) (by simp) rfl]
    have hother : { difference with bus := wrapping.bus }.Fetches ⟨0x01095023⟩ :=
      ⟨hfetch.aligns, hload⟩
    have hexact : TrapOp.sub.exact difference ⟨0x01095022⟩ = 0x7ffe0000 := by
      change (difference.register 8).toInt32.toInt - (difference.register 9).toInt32.toInt = _
      rw [hminuend, hsubtrahend]
      decide
    obtain ⟨-, hraises, htarget, -, hagrees⟩ :=
      @trapping_wraps _ _ .sub hfetch ⟨by decide, by decide⟩
    rw [hexact] at hraises
    have hquiet : ¬difference.Raises .arithmeticOverflow := fun h => hraises.mp h (by decide)
    have hleaves := hagrees hquiet
    rw [hcounterpart] at hleaves
    refine ⟨hleaves.same, ?_, ?_⟩
    · rw [hleaves.twin _ hother]
    · have hresult := not_not.mp ((htarget (by decide)).not.mp hquiet)
      rw [hexact, hcounterpart, ← hleaves.same] at hresult
      exact hresult

end Cpu

end Playstation
