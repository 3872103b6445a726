import Playstation.Proofs.Dma.Flags
import Playstation.Proofs.Dma.PartWrite

/-!
# Fields of the registers of the controller

A register is kept by its fields, and shows these and nothing else. So what is written to
it reads back as far as there are fields, apart from the flags of the interrupt register,
which a write can only clear, and the interrupt line, which follows from the other bits. A
channel keeps its fields in numbers which are longer than the fields. Writing back what a
channel shows changes nothing only because no write puts more into them than fits.
-/

namespace Playstation

open MachineWord

/-- A byte which fits into a field at the bottom is kept by it. -/
theorem toUInt8_bits_of_lt {x : UInt8} {high : Nat} (hhigh : high < 32)
    (h : x.toNat < 2 ^ (high + 1)) : (bits x.toUInt32 0 high).toUInt8 = x := by
  have hfield : bits x.toUInt32 0 high = x.toUInt32 := by
    rw [← UInt32.toNat_inj, toNat_bits _ (Nat.zero_le _) hhigh, UInt8.toNat_toUInt32, Nat.pow_zero,
      Nat.div_one, Nat.sub_zero, Nat.mod_eq_of_lt h]
  rw [hfield, UInt8.toUInt8_toUInt32]

/-- A field is what has been put there, as far as that fits. -/
theorem bits_setBits (x value : UInt32) {low high : Nat} (hle : low ≤ high) (hhigh : high < 32) :
    bits (setBits x low high value) low high = bits value 0 (high - low) :=
  bits_setBits_same x value hle hhigh

namespace Channel

variable {channel written : Channel} {port : Port} {value : UInt32} {i : Nat}

/-- Bits of the control register without a field read as zero. -/
theorem getLsbD_control_of_not_keeps (channel : Channel) (hi : ¬Keeps i) :
    (toBits channel.control).getLsbD i = false := by
  unfold Keeps at hi
  unfold control
  rw [getLsbD_setBits _ _ (by decide) (by decide), if_neg (by omega),
    getLsbD_setBit _ (by decide), if_neg (by omega), getLsbD_setBit _ (by decide),
    if_neg (by omega), getLsbD_setBits _ _ (by decide) (by decide), if_neg (by omega),
    getLsbD_setBits _ _ (by decide) (by decide), if_neg (by omega),
    getLsbD_setBits _ _ (by decide) (by decide), if_neg (by omega),
    getLsbD_setBit _ (by decide), if_neg (by omega), getLsbD_setBit _ (by decide),
    if_neg (by omega), getLsbD_setBit _ (by decide), if_neg (by omega)]
  exact BitVec.getLsbD_zero

/-- The bits with a field as a mask. -/
theorem getLsbD_keptMask (hi : i < 32) :
    (toBits (0x71770703 : UInt32)).getLsbD i = true ↔ Keeps i := by
  unfold Keeps
  revert i
  decide

/-- The control register shows what has been written to it as far as there are fields. -/
theorem control_of_setControl? (h : setControl? port channel value = some written) :
    written.control = controlMask port value &&& 0x71770703 := by
  refine eq_of_getLsbD_eq fun i hi => ?_
  rw [getLsbD_and]
  by_cases hkeeps : Keeps i
  · rw [getLsbD_control h hkeeps, (getLsbD_keptMask hi).mpr hkeeps, Bool.and_true]
  · have hclear := mt (getLsbD_keptMask hi).mp hkeeps
    rw [getLsbD_control_of_not_keeps _ hkeeps, Bool.eq_false_of_not_eq_true hclear, Bool.and_false]

/-- What the ordering table keeps of a value has fields. -/
theorem controlMask_otc_and (value : UInt32) :
    controlMask .otc value &&& 0x71770703 = (value &&& 0x51000000) ||| 2 := by
  have hmask : (0x51000000 : UInt32) &&& 0x71770703 = 0x51000000 := by decide
  have hstep : (2 : UInt32) &&& 0x71770703 = 2 := by decide
  have hdistrib (x y z : UInt32) : (x ||| y) &&& z = (x &&& z) ||| (y &&& z) :=
    UInt32.toBitVec_inj.mp BitVec.and_or_distrib_right
  rw [controlMask, hdistrib, UInt32.and_assoc, hmask, hstep]

/-- A control value is refused if its sync mode does not exist, except for the ordering
table. -/
theorem setControl?_eq_none_iff :
    setControl? port channel value = none ↔ port ≠ .otc ∧ syncNumber value = 3 := by
  constructor
  · intro h
    by_contra haccepted
    obtain ⟨written, hwritten, -⟩ := @exists_setControl? port value channel (by tauto)
    rw [h] at hwritten
    cases hwritten
  · rintro ⟨hport, hnumber⟩
    rw [setControl?, controlMask_of_ne_otc hport, hnumber]
    rfl

/-- A property of channels which holds at power on, and which writes of their registers and the
end of their transfers keep. -/
structure IsInvariant (P : Channel → Prop) : Prop where
  /-- It holds of a channel at power on. -/
  powerOn : P .powerOn
  /-- Writing the start address keeps it. -/
  setBase {channel : Channel} (h : P channel) (value : UInt32) : P (channel.setBase value)
  /-- Writing the size of the transfer keeps it. -/
  setBlockControl {channel : Channel} (h : P channel) (value : UInt32) :
    P (channel.setBlockControl value)
  /-- Writing the control register keeps it. -/
  setControl? {port : Port} {channel written : Channel} {value : UInt32} (h : P channel)
    (hwrite : Channel.setControl? port channel value = some written) : P written
  /-- The end of a transfer keeps it. -/
  finish {channel : Channel} (h : P channel) : P channel.finish

/-- The fields of a channel are no longer than they are in its registers. -/
structure Fits (channel : Channel) : Prop where
  /-- The start address has 24 bits. -/
  base : channel.base.toNat < 2 ^ 24
  /-- The length of the parts of a transfer has three. -/
  chopDmaSize : channel.chopDmaSize.toNat < 2 ^ 3
  /-- So has the length of the gaps. -/
  chopCpuSize : channel.chopCpuSize.toNat < 2 ^ 3
  /-- There are two spare bits. -/
  spare : channel.spare.toNat < 2 ^ 2

/-- A field of the control register is cut when it is written. -/
theorem toNat_toUInt8_bits_lt {low high : Nat} (hle : low ≤ high) (hhigh : high < 32)
    (hlength : high - low < 8) : (bits value low high).toUInt8.toNat < 2 ^ (high - low + 1) := by
  have hfield := congrArg UInt32.toNat (toUInt32_toUInt8_bits (x := value) hle hhigh hlength)
  rw [UInt8.toNat_toUInt32] at hfield
  rw [hfield]
  exact toNat_bits_lt hle hhigh

/-- Writing the control register cuts its fields and leaves the address. -/
theorem Fits.setControl? (h : channel.Fits)
    (hwrite : Channel.setControl? port channel value = some written) : written.Fits := by
  obtain ⟨sync, -, rfl⟩ := Option.map_eq_some_iff.mp hwrite
  exact ⟨h.base, toNat_toUInt8_bits_lt (by decide) (by decide) (by decide),
    toNat_toUInt8_bits_lt (by decide) (by decide) (by decide),
    toNat_toUInt8_bits_lt (by decide) (by decide) (by decide)⟩

/-- Writing back what the control register shows changes nothing, if the fields are no longer
than there. The ordering table is different, since it fixes some of them. -/
theorem Fits.restore (h : channel.Fits) (hport : port ≠ .otc) :
    Channel.setControl? port channel channel.control = some channel := by
  have hfound : SyncMode.ofNumber? channel.sync.number = some channel.sync := by
    cases channel.sync <;> rfl
  have hdirection : (if bit channel.control 0 then Direction.fromRam else .toRam) =
      channel.direction := by
    rw [control]
    cases channel.direction <;> simp
  have hstep : (if bit channel.control 1 then Step.decrement else .increment) = channel.step := by
    rw [control]
    cases channel.step <;> simp
  have hchop : bit channel.control 8 = channel.chop := by
    rw [control]
    simp
  have htrigger : bit channel.control 28 = channel.trigger := by
    rw [control]
    simp
  have hdma : (bits channel.control 16 18).toUInt8 = channel.chopDmaSize := by
    rw [control]
    simpa [bits_setBits] using toUInt8_bits_of_lt (by decide) h.chopDmaSize
  have hcpu : (bits channel.control 20 22).toUInt8 = channel.chopCpuSize := by
    rw [control]
    simpa [bits_setBits] using toUInt8_bits_of_lt (by decide) h.chopCpuSize
  have hspare : (bits channel.control 29 30).toUInt8 = channel.spare := by
    rw [control]
    simpa [bits_setBits] using toUInt8_bits_of_lt (by decide) h.spare
  rw [Channel.setControl?, controlMask_of_ne_otc hport, syncNumber_control, hfound, hdirection,
    hstep, hchop, bit_control_enable, htrigger, hdma, hcpu, hspare]
  rfl

/-- The fields of a channel fit at power on, and whatever is written to its registers. -/
theorem isInvariant_fits : IsInvariant Fits where
  powerOn := ⟨by decide, by decide, by decide, by decide⟩
  setBase h _ := ⟨toNat_bits_lt (by decide) (by decide), h.chopDmaSize, h.chopCpuSize, h.spare⟩
  setBlockControl h _ := ⟨h.base, h.chopDmaSize, h.chopCpuSize, h.spare⟩
  setControl? h hwrite := h.setControl? hwrite
  finish h := ⟨h.base, h.chopDmaSize, h.chopCpuSize, h.spare⟩

/-- Writing back the start address changes nothing. -/
theorem Fits.setBase_base (h : channel.Fits) : channel.setBase channel.base = channel := by
  have hfield : bits channel.base 0 23 = channel.base := by
    rw [← UInt32.toNat_inj, toNat_bits _ (by decide) (by decide), Nat.pow_zero, Nat.div_one]
    exact Nat.mod_eq_of_lt h.base
  rw [setBase, hfield]

/-- Writing back the size of the transfer changes nothing. -/
theorem setBlockControl_blockControl (channel : Channel) :
    channel.setBlockControl channel.blockControl = channel := by
  have hhalf (x : UInt16) : (bits x.toUInt32 0 15).toUInt16 = x := by
    have hbound : x.toNat < 2 ^ 16 := x.toNat_lt
    have hfield : bits x.toUInt32 0 15 = x.toUInt32 := by
      rw [← UInt32.toNat_inj, toNat_bits _ (by decide) (by decide), UInt16.toNat_toUInt32,
        Nat.pow_zero, Nat.div_one]
      exact Nat.mod_eq_of_lt hbound
    rw [hfield, UInt16.toUInt16_toUInt32]
  have hsize : (bits channel.blockControl 0 15).toUInt16 = channel.blockSize := by
    rw [blockControl]
    simpa using hhalf channel.blockSize
  have hcount : (bits channel.blockControl 16 31).toUInt16 = channel.blockCount := by
    rw [blockControl, bits_setBits _ _ (by decide) (by decide)]
    exact hhalf channel.blockCount
  rw [setBlockControl, hsize, hcount]

/-- A channel is active if it is enabled, and started unless it waits for its device. -/
theorem isActive_iff (channel : Channel) :
    channel.isActive = true ↔
      channel.enable = true ∧ (channel.sync ≠ .manual ∨ channel.trigger = true) := by
  rw [isActive, Bool.and_eq_true]
  cases channel.sync <;> simp

end Channel

namespace Interrupts

/-- Whether the interrupt line is raised, by the bits of the register. -/
def raises (value : UInt32) : Bool :=
  bit value 15 ||
    (bit value 23 && Port.all.any fun port =>
      bit value (24 + port.index) && bit value (16 + port.index))

/-- What the register shows after a write, from what it has shown before. Flags to which a one is
written are cleared. The top bit follows from the others. -/
def shown (before value : UInt32) : UInt32 :=
  let kept := (value &&& 0x00ff803f) ||| (before &&& ~~~value &&& 0x7f000000)
  setBit kept 31 (raises kept)

/-- The line is raised by force or by the flag of an enabled channel. -/
theorem raises_iff (value : UInt32) :
    raises value = true ↔ bit value 15 = true ∨ bit value 23 = true ∧
      ∃ port : Port, bit value (24 + port.index) = true ∧ bit value (16 + port.index) = true := by
  have hall (port : Port) : port ∈ Port.all := by
    cases port <;> decide
  simp [raises, hall]

/-- What the register shows below its top bit. -/
theorem getLsbD_read_write_below (interrupts : Interrupts) (value : UInt32) {i : Nat}
    (hi : i < 31) :
    (toBits (interrupts.write value).read).getLsbD i =
      (toBits ((value &&& 0x00ff803f) |||
        (interrupts.read &&& ~~~value &&& 0x7f000000))).getLsbD i := by
  have hfields : ∀ i < 31, (toBits (0x00ff803f : UInt32)).getLsbD i =
      decide (i ≤ 5 ∨ 15 ≤ i ∧ i ≤ 23) := by decide
  have hflags : ∀ i < 31, (toBits (0x7f000000 : UInt32)).getLsbD i = decide (24 ≤ i) := by decide
  have hwidth : i < width UInt32 := Nat.lt_succ_of_lt hi
  rw [getLsbD_or, getLsbD_and, getLsbD_and, getLsbD_and, getLsbD_not, hfields i hi, hflags i hi,
    decide_eq_true hwidth, Bool.true_and]
  by_cases hflag : 24 ≤ i
  · obtain ⟨n, rfl⟩ := Nat.exists_eq_add_of_le hflag
    rw [getLsbD_read_flag _ (by omega), getLsbD_write_flag _ _ (by omega),
      getLsbD_read_flag _ (by omega), decide_eq_false (by omega), decide_eq_true hflag,
      Bool.and_false, Bool.false_or, Bool.and_true]
  · rw [decide_eq_false hflag, Bool.and_false, Bool.or_false]
    by_cases hfield : i ≤ 5 ∨ 15 ≤ i ∧ i ≤ 23
    · rw [getLsbD_read_write hfield, decide_eq_true hfield, Bool.and_true]
    · rw [getLsbD_read, if_neg (by omega), if_neg (by omega), if_neg (by omega),
        if_neg (by omega), if_neg (by omega), (valid_write value).spare i (by omega),
        decide_eq_false hfield, Bool.and_false]

/-- After a write the register shows what has been written as far as there are fields, and the
flags which have not been acknowledged. -/
theorem read_write (interrupts : Interrupts) (value : UInt32) :
    (interrupts.write value).read = shown interrupts.read value := by
  have hbelow {i : Nat} := interrupts.getLsbD_read_write_below value (i := i)
  unfold shown
  generalize (value &&& 0x00ff803f) ||| (interrupts.read &&& ~~~value &&& 0x7f000000) = kept
    at hbelow
  have hsame {n : Nat} (hn : n < 31) : bit (interrupts.write value).read n = bit kept n := by
    rw [bit_eq_getLsbD (by omega), bit_eq_getLsbD (by omega), hbelow hn]
  have hline : bit (interrupts.write value).read 31 = raises kept := by
    rw [Bool.eq_iff_iff, (valid_write value).bit_read_line, raises_iff, hsame (by decide),
      hsame (by decide)]
    refine or_congr Iff.rfl (and_congr Iff.rfl (exists_congr fun port => ?_))
    rw [hsame (by omega), hsame (by omega)]
  refine eq_of_getLsbD_eq fun i hi => ?_
  have hi : i < 32 := hi
  rw [getLsbD_setBit _ (by decide)]
  by_cases htop : i = 31
  · rw [if_pos htop, htop, ← bit_eq_getLsbD (by decide), hline]
  · rw [if_neg htop, hbelow (by omega)]

end Interrupts

end Playstation
