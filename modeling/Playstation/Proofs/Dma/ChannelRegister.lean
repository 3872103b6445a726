import Playstation.Dma.Controller
import Playstation.Proofs.Field

/-!
# Registers of a channel

What is written to a register of a channel reads back as far as the channel
keeps it. The size of the transfer is kept in full. The control register is kept
by its fields, of which the channel of the ordering table has three; a value
counts by these fields only, and replaces all of them. It is refused if its sync
mode does not exist, which cannot happen to the ordering table.
-/

namespace Playstation

open MachineWord

/-- There is a sync mode of every number but three. -/
theorem SyncMode.exists_ofNumber? {word : UInt32} (h : Channel.syncNumber word ≠ 3) :
    ∃ sync, ofNumber? (Channel.syncNumber word) = some sync := by
  have hbound : (Channel.syncNumber word).toNat < 2 ^ 2 := toNat_bits_lt (by decide) (by decide)
  have hthree : (Channel.syncNumber word).toNat ≠ 3 := fun heq => h (UInt32.toNat_inj.mp heq)
  rw [ofNumber?]
  obtain hzero | hone | htwo : (Channel.syncNumber word).toNat = 0 ∨
      (Channel.syncNumber word).toNat = 1 ∨ (Channel.syncNumber word).toNat = 2 := by
    omega
  · rw [hzero]
    exact ⟨_, rfl⟩
  · rw [hone]
    exact ⟨_, rfl⟩
  · rw [htwo]
    exact ⟨_, rfl⟩

/-- The number of a sync mode is the one it has been found by. -/
theorem SyncMode.number_ofNumber? {number : UInt32} {sync : SyncMode}
    (h : ofNumber? number = some sync) : sync.number = number := by
  rw [ofNumber?] at h
  split at h
  · next hnumber =>
    cases h
    exact (UInt32.toNat_inj.mp hnumber).symm
  · next hnumber =>
    cases h
    exact (UInt32.toNat_inj.mp hnumber).symm
  · next hnumber =>
    cases h
    exact (UInt32.toNat_inj.mp hnumber).symm
  · cases h

namespace Channel

variable {channel other written : Channel} {port : Port} {value word : UInt32} {i low high : Nat}

/-- A channel keeps both halves of its block control register. -/
theorem blockControl_setBlockControl (channel : Channel) (value : UInt32) :
    (channel.setBlockControl value).blockControl = value := by
  rw [blockControl, setBlockControl]
  have hsize : (bits value 0 15).toUInt16.toUInt32 = bits value 0 15 :=
    toUInt32_toUInt16_bits (by decide) (by decide) (by decide)
  have hcount : (bits value 16 31).toUInt16.toUInt32 = bits value 16 31 :=
    toUInt32_toUInt16_bits (by decide) (by decide) (by decide)
  simp only [hsize, hcount]
  refine eq_of_getLsbD_eq fun i hi => ?_
  have hi : i < 32 := hi
  rw [getLsbD_setBits_bits (by decide) (by decide)]
  split
  · rfl
  · next hlow =>
    rw [getLsbD_bits _ (by decide) (by decide), Nat.zero_add, decide_eq_true (by omega),
      Bool.and_true]

/-- Whether a bit of the control register belongs to a field. -/
def Keeps (i : Nat) : Prop :=
  i ≤ 1 ∨ (8 ≤ i ∧ i ≤ 10) ∨ (16 ≤ i ∧ i ≤ 18) ∨ (20 ≤ i ∧ i ≤ 22) ∨ i = 24 ∨ (28 ≤ i ∧ i ≤ 30)

/-- The fields are within the register. -/
theorem Keeps.lt (h : Keeps i) : i < 32 := by
  rw [Keeps] at h
  omega

/-- The control register of the ordering table keeps a part of what is
written. -/
theorem getLsbD_controlMask_otc (word : UInt32) (i : Nat) :
    (toBits (controlMask .otc word)).getLsbD i =
      ((toBits word).getLsbD i && (toBits (0x51000000 : UInt32)).getLsbD i ||
        (toBits (2 : UInt32)).getLsbD i) := by
  change (toBits ((word &&& 0x51000000) ||| 2)).getLsbD i = _
  rw [getLsbD_or, getLsbD_and]

/-- The same for what it reads off single bits. -/
theorem bit_controlMask_otc (hi : i < 32) :
    bit (controlMask .otc word) i =
      (bit word i && bit (0x51000000 : UInt32) i || bit (2 : UInt32) i) := by
  rw [bit_eq_getLsbD hi, bit_eq_getLsbD hi, bit_eq_getLsbD hi, bit_eq_getLsbD hi,
    getLsbD_controlMask_otc]

/-- A bit which the ordering table does not keep is fixed. -/
theorem getLsbD_controlMask_otc_of_clear {i : Nat}
    (hmask : (toBits (0x51000000 : UInt32)).getLsbD i = false) :
    (toBits (controlMask .otc value)).getLsbD i = (toBits (2 : UInt32)).getLsbD i := by
  rw [getLsbD_controlMask_otc, hmask, Bool.and_false, Bool.false_or]

/-- So is a field of such bits. -/
theorem bits_controlMask_otc (hle : low ≤ high) (hhigh : high < 32)
    (hmask : ∀ i ≤ high, low ≤ i → (toBits (0x51000000 : UInt32)).getLsbD i = false) :
    bits (controlMask .otc value) low high = bits 2 low high :=
  bits_congr hle hhigh fun i hlow hi => getLsbD_controlMask_otc_of_clear (hmask i hi hlow)

/-- The sync mode of the ordering table is always the same. -/
theorem syncNumber_controlMask_otc (word : UInt32) : syncNumber (controlMask .otc word) = 0 :=
  bits_controlMask_otc (by decide) (by decide) (by decide)

/-- One of the two spare bits is kept. -/
theorem bits_controlMask_otc_spare :
    bits (controlMask .otc value) 29 30 = if bit value 30 then 2 else 0 := by
  have hlower : (toBits (controlMask .otc value)).getLsbD 29 = false :=
    getLsbD_controlMask_otc_of_clear (by decide)
  have hupper : (toBits (controlMask .otc value)).getLsbD 30 = bit value 30 := by
    rw [← bit_eq_getLsbD (by decide), bit_controlMask_otc (by decide)]
    exact (Bool.or_false _).trans (Bool.and_true _)
  have hfield (word : UInt32) (hlower' : (toBits word).getLsbD 29 = false)
      (hupper' : (toBits word).getLsbD 30 = bit value 30) :
      bits (controlMask .otc value) 29 30 = bits word 29 30 := by
    refine bits_congr (by decide) (by decide) fun i hlow hi => ?_
    obtain rfl | rfl : i = 29 ∨ i = 30 := by omega
    · rw [hlower, hlower']
    · rw [hupper, hupper']
  cases hset : bit value 30 with
  | true => exact hfield 0x40000000 (by decide) (by rw [hset]; decide)
  | false => exact hfield 0 (by decide) (by rw [hset]; decide)

/-- The other channels keep all of it. -/
theorem controlMask_of_ne_otc (hport : port ≠ .otc) (word : UInt32) :
    controlMask port word = word := by
  cases port <;> first | rfl | exact absurd rfl hport

/-- A channel for the ordering table with the address and size of another one. -/
def asTable (channel : Channel) (step : Step) (enable trigger spare : Bool) : Channel :=
  { powerOn with
    base := channel.base
    blockSize := channel.blockSize
    blockCount := channel.blockCount
    step := step
    enable := enable
    trigger := trigger
    spare := if spare then 2 else 0 }

/-- Setting the control register of the ordering table replaces its three flags,
and everything else but the address and the size is fixed. -/
theorem setControl?_eq_asTable (channel : Channel) (value : UInt32) :
    setControl? .otc channel value =
      some (channel.asTable .decrement (bit value 24) (bit value 28) (bit value 30)) := by
  have hkept {i : Nat} (hi : i < 32) (hset : bit (0x51000000 : UInt32) i = true)
      (hclear : bit (2 : UInt32) i = false) : bit (controlMask .otc value) i = bit value i := by
    rw [bit_controlMask_otc hi, hset, hclear, Bool.and_true, Bool.or_false]
  have hfixed {i : Nat} (hi : i < 32)
      (hclear : (toBits (0x51000000 : UInt32)).getLsbD i = false) :
      bit (controlMask .otc value) i = bit (2 : UInt32) i := by
    rw [bit_eq_getLsbD hi, bit_eq_getLsbD hi, getLsbD_controlMask_otc_of_clear hclear]
  have hdirection : bit (controlMask .otc value) 0 = false := hfixed (by decide) (by decide)
  have hstep : bit (controlMask .otc value) 1 = true := hfixed (by decide) (by decide)
  have hchop : bit (controlMask .otc value) 8 = false := hfixed (by decide) (by decide)
  have hdma : bits (controlMask .otc value) 16 18 = 0 :=
    bits_controlMask_otc (by decide) (by decide) (by decide)
  have hcpu : bits (controlMask .otc value) 20 22 = 0 :=
    bits_controlMask_otc (by decide) (by decide) (by decide)
  have hspare : (if bit value 30 then (2 : UInt32) else 0).toUInt8 =
      if bit value 30 then 2 else 0 := by
    cases bit value 30 <;> rfl
  rw [setControl?, syncNumber_controlMask_otc, hdirection, hstep, hchop, hdma, hcpu,
    hkept (by decide) rfl rfl, hkept (by decide) rfl rfl, bits_controlMask_otc_spare, hspare]
  rfl

/-- A field of the control register reads as it has been written. -/
theorem getLsbD_control (h : setControl? port channel value = some written) (hi : Keeps i) :
    (toBits written.control).getLsbD i = (toBits (controlMask port value)).getLsbD i := by
  obtain ⟨sync, hsync, rfl⟩ := Option.map_eq_some_iff.mp h
  generalize controlMask port value = word at hsync ⊢
  have hdirection : decide ((if bit word 0 then Direction.fromRam else .toRam) = .fromRam) =
      bit word 0 := by
    cases bit word 0 <;> rfl
  have hstep : decide ((if bit word 1 then Step.decrement else .increment) = .decrement) =
      bit word 1 := by
    cases bit word 1 <;> rfl
  have hnumber : sync.number = bits word 9 10 := SyncMode.number_ofNumber? hsync
  have hdma : (bits word 16 18).toUInt8.toUInt32 = bits word 16 18 :=
    toUInt32_toUInt8_bits (by decide) (by decide) (by decide)
  have hcpu : (bits word 20 22).toUInt8.toUInt32 = bits word 20 22 :=
    toUInt32_toUInt8_bits (by decide) (by decide) (by decide)
  have hspare : (bits word 29 30).toUInt8.toUInt32 = bits word 29 30 :=
    toUInt32_toUInt8_bits (by decide) (by decide) (by decide)
  rw [control]
  simp only [hdirection, hstep, hnumber, hdma, hcpu, hspare]
  rw [getLsbD_setBits_bits (by decide) (by decide), getLsbD_setBit_bit (by decide),
    getLsbD_setBit_bit (by decide), getLsbD_setBits_bits (by decide) (by decide),
    getLsbD_setBits_bits (by decide) (by decide), getLsbD_setBits_bits (by decide) (by decide),
    getLsbD_setBit_bit (by decide), getLsbD_setBit_bit (by decide), getLsbD_setBit_bit (by decide)]
  split_ifs
  case neg =>
    rw [Keeps] at hi
    omega
  all_goals rfl

/-- A control value counts by its fields, and replaces all of them. -/
theorem setControl?_congr (hbase : other.base = channel.base)
    (hsize : other.blockSize = channel.blockSize) (hcount : other.blockCount = channel.blockCount)
    (h : ∀ i, Keeps i → (toBits (controlMask port value)).getLsbD i =
      (toBits (controlMask port word)).getLsbD i) :
    setControl? port other value = setControl? port channel word := by
  have hfield {low high : Nat} (hle : low ≤ high) (hhigh : high < 32)
      (hkeeps : ∀ i, low ≤ i → i ≤ high → Keeps i) :
      bits (controlMask port value) low high = bits (controlMask port word) low high :=
    bits_congr hle hhigh fun i hlow hi => h i (hkeeps i hlow hi)
  have hflag {n : Nat} (hkeeps : Keeps n) :
      bit (controlMask port value) n = bit (controlMask port word) n := by
    rw [bit_eq_getLsbD hkeeps.lt, bit_eq_getLsbD hkeeps.lt, h n hkeeps]
  have hdirection := @hflag 0 (by unfold Keeps; omega)
  have hstep := @hflag 1 (by unfold Keeps; omega)
  have hchop := @hflag 8 (by unfold Keeps; omega)
  have hsync : syncNumber (controlMask port value) = syncNumber (controlMask port word) :=
    hfield (by decide) (by decide) (by unfold Keeps; omega)
  have hdma := @hfield 16 18 (by decide) (by decide) (by unfold Keeps; omega)
  have hcpu := @hfield 20 22 (by decide) (by decide) (by unfold Keeps; omega)
  have henable := @hflag 24 (by unfold Keeps; omega)
  have htrigger := @hflag 28 (by unfold Keeps; omega)
  have hspare := @hfield 29 30 (by decide) (by decide) (by unfold Keeps; omega)
  simp only [setControl?, hbase, hsize, hcount, hdirection, hstep, hchop, hsync, hdma, hcpu,
    henable, htrigger, hspare]

/-- The control register shows the sync mode. -/
theorem syncNumber_control (channel : Channel) :
    syncNumber channel.control = channel.sync.number := by
  have hnumber : channel.sync.number = bits channel.sync.number 0 1 := by
    cases channel.sync <;> decide
  rw [syncNumber, control, hnumber]
  simp

/-- The control register shows whether the channel is enabled. -/
theorem bit_control_enable (channel : Channel) : bit channel.control 24 = channel.enable := by
  rw [control]
  simp

/-- A control value is accepted if there is a sync mode of its number, and for
the ordering table always. It enables the channel if it says so. -/
theorem exists_setControl? (channel : Channel) (h : syncNumber word ≠ 3 ∨ port = .otc) :
    ∃ written, setControl? port channel word = some written ∧ written.enable = bit word 24 := by
  by_cases hport : port = .otc
  · subst hport
    exact ⟨_, setControl?_eq_asTable channel word, rfl⟩
  · obtain ⟨sync, hsync⟩ := SyncMode.exists_ofNumber? (h.resolve_right hport)
    rw [setControl?, controlMask_of_ne_otc hport, hsync]
    exact ⟨_, rfl, rfl⟩

end Channel

end Playstation
