import Playstation.Proofs.Bus.Access
import Playstation.Proofs.Bytes
import Playstation.Proofs.Cpu.CommitLaw
import Playstation.Proofs.Width

/-!
# How much a load returns

A load of a byte or a halfword returns no more than that from the memories, from
the halfword registers and from every register that is narrowed. Two registers
are not: cache control and the size of main memory are returned whole, whatever
the width. The instructions which load a byte or a halfword without sign leave
what the bus returns, and so do not narrow it either.
-/

namespace Playstation

open MachineWord

/-- The low bits of a value fit their width. -/
theorem Width.toNat_and_allOnes_lt (w : Width) (value : UInt32) :
    (value &&& w.allOnes).toNat < 2 ^ w.bitCount := by
  rw [toNat_and_mask value w.toNat_allOnes]
  exact Nat.mod_lt _ (Nat.two_pow_pos _)

/-- The part of a register which a load sees fits the width. -/
theorem toNat_narrow_lt (w : Width) (value offset : UInt32) :
    (narrow w value offset).toNat < 2 ^ w.bitCount := w.toNat_and_allOnes_lt _

/-- A value loaded from a memory fits the width. -/
theorem Bytes.toNat_load_lt {size : Nat} (memory : Bytes size) (w : Width) (offset : Nat) :
    (memory.load w offset).toNat < 2 ^ w.bitCount := by
  have hwidth := w.two_pow_bitCount
  have hdigits : ∀ digit ∈ (List.range w.bytes).map fun k => (memory.get (offset + k)).toNat,
      digit < 256 := by
    intro digit hdigit
    obtain ⟨k, -, rfl⟩ := List.mem_map.mp hdigit
    exact (memory.get (offset + k)).toNat_lt
  have hbound := Nat.ofDigits_lt_base_pow_length (by decide) hdigits
  rw [List.length_map, List.length_range] at hbound
  rw [toNat_load, hwidth]
  exact hbound

/-- A value loaded from the sound processor fits the width. -/
theorem Spu.toNat_load_lt (spu : Spu) (w : Width) (address : UInt32) :
    (spu.load w address).toNat < 2 ^ w.bitCount := by
  cases w with
  | byte => exact Nat.two_pow_pos 8
  | half => exact (spu.load16 address).toNat_lt
  | word => exact (spu.load .word address).toNat_lt

namespace Bus

/-- Whether a value is one that a load of a width may return from an address:
one of that width, except that two registers are returned whole. -/
def Returns (bus : Bus) (w : Width) (address value : UInt32) : Prop :=
  match Region.find? (physical address) with
  | some .cacheControl => value = bus.cacheControl
  | some .ramSize => value = bus.ramSize
  | _ => value.toNat < 2 ^ w.bitCount

/-- A peek that succeeds returns such a value. -/
theorem returns_of_peek {bus : Bus} {w : Width} {address value : UInt32}
    (h : bus.peek w address = .ok value) : bus.Returns w address value := by
  rw [peek] at h
  split at h
  · rw [Returns]
    cases hregion : Region.find? (physical address) with
    | none =>
      rw [hregion] at h
      cases h
    | some region =>
      simp only [hregion] at h
      cases region with
      | bios | ram =>
        cases h
        exact Bytes.toNat_load_lt _ _ _
      | interruptControl | timers | cdrom =>
        cases h
        exact Nat.two_pow_pos _
      | dma =>
        rw [peekRegion] at h
        split at h
        · cases h
          exact toNat_narrow_lt _ _ _
        · cases h
      | gpu | memoryControl =>
        cases h
        exact toNat_narrow_lt _ _ _
      | expansion1 | expansion2 =>
        cases h
        change w.allOnes.toNat < _
        rw [w.toNat_allOnes]
        exact Nat.sub_lt (Nat.two_pow_pos _) Nat.zero_lt_one
      | spu =>
        cases h
        exact Spu.toNat_load_lt _ _ _
      | cacheControl | ramSize =>
        cases h
        rfl
  · cases h

/-- The graphics processor is all that a load changes, so what may be returned
after it might have been before. -/
theorem returns_notice {bus : Bus} {w other : Width} {address target value : UInt32} :
    (bus.notice other target).Returns w address value ↔ bus.Returns w address value := by
  rw [notice]
  split <;> rfl

end Bus

namespace Cpu

/-- A load or peek that succeeds returns a value of its width from everywhere but
the cache control register and the size of main memory, which it returns whole.
An instruction of a processor on the bus which loads a byte or a halfword without
sign and meets neither an exception nor a host fault leaves such a value for its
register. -/
theorem load_width (bus : Bus) :
    (∀ (w : Width) (address value : UInt32),
      (bus.load w address).2 = .ok value ∨ bus.peek w address = .ok value →
        bus.Returns w address value) ∧
    ∀ (bios : Bios) (cpu : Cpu) (word : InstructionWord) (op : LoadOp) (rt base : Register)
      (offset : UInt32),
      cpu.bus = bus → Reachable bios cpu → cpu.Fetches word →
      word.decode = .load op rt base offset →
      op = .lbu ∨ op = .lhu → cpu.exception? word.decode = none → cpu.step.2 = none →
      ∃ value, cpu.step.1.pending = ⟨rt, value⟩ ∧
        bus.Returns op.width (cpu.memoryAddress base offset) value := by
  have hload (bus : Bus) (w : Width) (address value : UInt32)
      (h : (bus.load w address).2 = .ok value) : bus.Returns w address value :=
    Bus.returns_notice.mp (Bus.returns_of_peek h)
  refine ⟨?_, ?_⟩
  · rintro w address value (h | h)
    · exact hload bus w address value h
    · exact Bus.returns_of_peek h
  · rintro bios cpu word op rt base offset rfl hreachable hfetch hword hop hraise hfault
    obtain ⟨value, hvalue, hpending, -⟩ :=
      (hfetch.commits hreachable.banks.1).loaded hword hraise hfault
    have hfetched : cpu.fetched.bus = cpu.bus.notice .word cpu.pc := rfl
    have hreturns := hload _ _ _ _ hvalue
    rw [hfetched, Bus.returns_notice] at hreturns
    -- Neither of the two moves the address or changes what the bus returns.
    rcases hop with rfl | rfl <;> exact ⟨value, hpending, hreturns⟩

/-- The first step from power on loads the byte at the start of main memory. -/
theorem load_width_powerOn :
    let cpu := powerOn (.ofWord 0x90080000)
    cpu.Fetches ⟨0x90080000⟩ ∧ cpu.step.2 = none ∧
      ∃ value, cpu.step.1.pending = ⟨8, value⟩ ∧ value.toNat < 2 ^ 8 := by
  intro cpu
  have hdecode : (InstructionWord.mk 0x90080000).decode = .load .lbu 8 0 0 := by decide
  have hfetch : cpu.Fetches ⟨0x90080000⟩ := fetches_ofWord _
  have hraise : cpu.exception? (InstructionWord.mk 0x90080000).decode = none := by
    rw [hdecode]
    rfl
  have hregion : Region.find? (physical 0) = some .ram := by decide
  have haddress : cpu.memoryAddress 0 0 = 0 := by decide
  have hlanded : cpu.fetched.landPending.memoryAddress 0 0 = 0 := by decide
  have hloaded (bus : Bus) : ∃ value, (bus.load .byte 0).2 = .ok value :=
    ⟨_, @Bus.peek_of_region (bus.notice .byte 0) .byte 0 .ram rfl hregion⟩
  have hfault : cpu.step.2 = none := by
    obtain ⟨value, hvalue⟩ := hloaded cpu.fetched.landPending.bus
    have hraise' : cpu.fetched.landPending.exception? (.load .lbu 8 0 0) = none := rfl
    rw [hfetch.step_eq, hdecode]
    simp only [execute, hraise', perform, performLoad, onBus_eq, hlanded, LoadOp.place,
      LoadOp.width, hvalue]
  obtain ⟨value, hpending, hreturns⟩ :=
    (load_width cpu.bus).2 _ cpu _ _ _ _ _ rfl .powerOn hfetch hdecode (.inl rfl) hraise hfault
  rw [haddress, Bus.Returns, hregion] at hreturns
  exact ⟨hfetch, hfault, value, hpending, hreturns⟩

end Cpu

namespace Bus

/-- A word is kept in the register for the size of main memory, and a byte load
from there returns all of it. -/
theorem load_byte_ramSize :
    let bus := ((powerOn (.ofWord 0)).store .word 0x1f801060 0x12345678).1
    bus.peek .byte 0x1f801060 = .ok 0x12345678 ∧ (bus.load .byte 0x1f801060).2 = .ok 0x12345678 ∧
      ¬(0x12345678 : UInt32).toNat < 2 ^ Width.byte.bitCount := by
  exact ⟨rfl, rfl, by decide⟩

end Bus

end Playstation
