import Playstation.Proofs.Cpu.Store
import Playstation.Proofs.Dma.Interrupt
import Playstation.Proofs.Dma.Transfer

/-!
# Stores beside the interrupt flags

The flags of the DMA controller are the top byte of its interrupt register. A
store instruction which does not cover that byte keeps the flags, with one
exception: the store of the high bytes of a misaligned word reads the whole
register, merges some bytes into it and writes all of it, the flags included.
Writing them back acknowledges every one.
-/

namespace Playstation

/-- Whether a store instruction is to write byte number `i` of the word around
its address. -/
def StoreOp.covers (op : StoreOp) (address : UInt32) (i : Nat) : Bool :=
  let first := (address &&& 3).toNat
  match op with
  | sb => i = first
  | sh => first ≤ i ∧ i ≤ first + 1
  | sw | swr => first ≤ i
  | swl => i ≤ first

namespace Bus

variable {bus : Bus} {op : StoreOp} {address value : UInt32}

/-- A store instruction beside the flags keeps them, or acknowledges all of
them if it stores the high bytes of a misaligned word. -/
theorem flags_storeBy (haligns : op.width.aligns (op.place address) = true)
    (h : physical address &&& 0xfffffffc = 0x1f8010f4) (hcovers : op.covers address 3 = false) :
    (bus.storeBy false op address value).1.dma.flags =
      if op = .swl then 0 else bus.dma.flags := by
  have hshift := toNat_byteShift address
  have hlow := toNat_lowBits_le address
  cases op with
  | sb =>
    have hfirst : ¬3 = (address &&& 3).toNat := of_decide_eq_false hcovers
    have hstore : bus.storeBy false .sb address value =
        bus.store .byte address (value &&& 0xff) := rfl
    rw [hstore, if_neg (by decide)]
    refine flags_store_narrow (by decide) haligns h ?_
    rw [hshift, Width.bitCount]
    omega
  | sh =>
    have hfirst : ¬((address &&& 3).toNat ≤ 3 ∧ 3 ≤ (address &&& 3).toNat + 1) :=
      of_decide_eq_false hcovers
    have hstore : bus.storeBy false .sh address value =
        bus.store .half address (value &&& 0xffff) := rfl
    rw [hstore, if_neg (by decide)]
    refine flags_store_narrow (by decide) haligns h ?_
    rw [hshift, Width.bitCount]
    omega
  | sw | swr =>
    have hfirst : ¬(address &&& 3).toNat ≤ 3 := of_decide_eq_false hcovers
    exact absurd hlow hfirst
  | swl =>
    have hfirst : ¬3 ≤ (address &&& 3).toNat := of_decide_eq_false hcovers
    have hwordAligns : Width.word.aligns (address &&& 0xfffffffc) = true := haligns
    have hword : physical (address &&& 0xfffffffc) &&& 0xfffffffc = 0x1f8010f4 := by
      rw [physical_word, UInt32.and_assoc, UInt32.and_self, h]
    have hold : bus.peek .word (address &&& 0xfffffffc) = .ok (bus.dma.read .interrupt) :=
      peek_interrupt hwordAligns hword
    -- The flags lie above the bytes which the merge replaces.
    have hback : bits (StoreOp.swl.combine address (bus.dma.read .interrupt) value) 24 30 =
        bus.dma.flags := by
      refine bits_congr (by decide) (by decide) fun i hlow hhigh => ?_
      rw [StoreOp.getLsbD_combine_swl _ _ _ (by omega), if_neg (by omega)]
    have hstore : bus.storeBy false .swl address value =
        bus.store .word (address &&& 0xfffffffc)
          (StoreOp.swl.combine address (bus.dma.read .interrupt) value) := by
      rw [storeBy, StoreOp.value]
      simp only [StoreOp.merges, StoreOp.place, if_true, hold, Except.map]
      rfl
    rw [hstore, flags_store_back hwordAligns hword hback, if_pos rfl]

end Bus

/-- The controller at power on, but with the interrupt of the last channel
enabled. -/
def Dma.lastEnabled : Dma := { Dma.powerOn with interrupts := ⟨0, false, 0x40, false, 0⟩ }

namespace Bus

variable {bus : Bus}

/-- At power on, the interrupt of the last channel can be enabled. -/
theorem store_enabling (h : bus.dma = .powerOn) :
    bus.store .word 0x1f8010f4 0x11400000 = ({ bus with dma := .lastEnabled }, none) := by
  rw [store_interrupt (by decide) (by decide), h]
  rfl

/-- Then clearing the ordering table sets the flag of that channel. -/
theorem store_clearing (h : bus.dma = .lastEnabled) :
    (bus.store .word 0x1f8010e8 0x11400000).1.bios = bus.bios ∧
      (bus.store .word 0x1f8010e8 0x11400000).1.dma.flags = 0x40 := by
  obtain ⟨dma, hdma⟩ : ∃ dma, dma = Dma.setChannel .lastEnabled .otc
      { Channel.powerOn with step := .decrement, enable := true, trigger := true } := ⟨_, rfl⟩
  have hstart : bus.Starts .word 0x1f8010e8 0x11400000 .otc dma := by
    refine ⟨rfl, by decide, ⟨.channelControl .otc, 0x11400000, rfl, rfl, rfl, ?_⟩, ?_⟩
    · rw [h, hdma]
      rfl
    · rw [hdma]
      rfl
  -- The number of entries is only named, so that none of them is ever computed.
  obtain ⟨size, hsize⟩ : ∃ size, (dma.channel .otc).transferSize? = some size := by
    rw [hdma]
    exact ⟨_, rfl⟩
  have hdirection : (dma.channel .otc).direction = .toRam := by
    rw [hdma]
    rfl
  have hflags : (dma.complete .otc).flags = 0x40 := by
    rw [hdma]
    decide
  have htransfer := @transfer_otc { bus with dma } size hsize hdirection
  rw [hstart.store_eq, htransfer]
  exact ⟨rfl, hflags⟩

end Bus

namespace Cpu

variable {cpu : Cpu} {word : InstructionWord} {op : StoreOp} {rt base : Register} {offset : UInt32}

/-- Fetching an instruction does not reach the DMA controller. -/
theorem fetched_dma (cpu : Cpu) : cpu.fetched.bus.dma = cpu.bus.dma := by
  have hload : cpu.fetched.bus = cpu.bus.notice .word cpu.pc := rfl
  rw [hload, Bus.notice_eq_withGpu]

/-- A step which stores to the interrupt register, but not to the byte with the
flags, leaves the flags as they were; only a store of the high bytes of a
misaligned word acknowledges all of them. -/
theorem flags_beside_store (hshared : cpu.cop0.cacheIsolated = false) (hfetch : cpu.Fetches word)
    (hword : word.decode = .store op rt base offset)
    (hregister : physical (cpu.memoryAddress base offset) &&& 0xfffffffc = 0x1f8010f4)
    (hcovers : op.covers (cpu.memoryAddress base offset) 3 = false) :
    cpu.step.1.bus.dma.flags = if op = .swl then 0 else cpu.bus.dma.flags := by
  cases hraise : cpu.exception? word.decode with
  | none =>
    have haligns := store_aligns (hword ▸ hraise)
    rw [(hfetch.step_store hword hraise).1, hshared, Bus.flags_storeBy haligns hregister hcovers,
      fetched_dma]
  | some exception =>
    -- A misaligned halfword, which is not stored.
    have hother : op ≠ .swl := by
      rintro rfl
      rw [hword, exception?_swl] at hraise
      cases hraise
    have hlanded : cpu.fetched.landPending.exception? word.decode = some exception := hraise
    have hbus : cpu.step.1.bus = cpu.fetched.bus := by
      rw [hfetch.step_eq, execute, hlanded]
      rfl
    rw [hbus, fetched_dma, if_neg hother]

/-- A program which enables the interrupt of the last channel and then clears
the ordering table has set the flag of that channel before its fifth
instruction, with the start of the hardware registers in a register. -/
theorem oneBank_after_clearing {bios : Bios} {last : UInt32}
    (hbios : bios = .ofWords [0x3c081f80, 0x3c091140, 0xad0910f4, 0xad0910e8, last]) :
    ∃ registers bus, (after bios 4).oneBank = .inOrder 4 registers .powerOn bus ∧
      registers.get 8 = 0x1f800000 ∧ bus.bios = bios ∧ bus.dma.flags = 0x40 := by
  have hbase : (InstructionWord.mk 0x3c081f80).decode = .lui 8 0x1f80 := by decide
  have hvalue : (InstructionWord.mk 0x3c091140).decode = .lui 9 0x1140 := by decide
  have henable : (InstructionWord.mk 0xad0910f4).decode = .store .sw 9 8 0x10f4 := by decide
  have hclear : (InstructionWord.mk 0xad0910e8).decode = .store .sw 9 8 0x10e8 := by decide
  obtain ⟨registers, hregisters⟩ : ∃ registers, registers =
      RegisterBank.write (RegisterBank.write (RegisterBank.write (RegisterBank.write
        (Vector.replicate 32 0) 0 0) 8 0x1f800000) 0 0) 9 0x11400000 := ⟨_, rfl⟩
  have hsecond : (after bios 2).oneBank = .inOrder 2 registers .powerOn (.powerOn bios) := by
    rw [oneBank_after_succ, oneBank_after_succ, oneBank_after_zero,
      OneBank.step_lui hbios (by simp) rfl hbase, OneBank.step_lui hbios (by simp) rfl hvalue,
      hregisters]
    rfl
  have hread : registers.get 8 = 0x1f800000 ∧ registers.get 9 = 0x11400000 ∧
      (registers.write 0 0).get 8 = 0x1f800000 ∧ (registers.write 0 0).get 9 = 0x11400000 ∧
      ((registers.write 0 0).write 0 0).get 8 = 0x1f800000 := by
    rw [hregisters]
    exact ⟨rfl, rfl, rfl, rfl, rfl⟩
  obtain ⟨h8, h9, h8', h9', h8''⟩ := hread
  have hpowerOn : (Bus.powerOn bios).dma = .powerOn := rfl
  obtain ⟨bus, hstored, hrom, hdma⟩ : ∃ bus,
      ((Bus.powerOn bios).store .word 0x1f8010f4 0x11400000).1 = bus ∧ bus.bios = bios ∧
        bus.dma = .lastEnabled := by
    rw [Bus.store_enabling hpowerOn]
    exact ⟨_, rfl, rfl, rfl⟩
  have hthird : (after bios 3).oneBank = .inOrder 3 (registers.write 0 0) .powerOn bus := by
    rw [oneBank_after_succ, hsecond, OneBank.step_sw hbios (by simp) rfl henable rfl
      (by rw [h8]; rfl), h8, h9]
    exact congrArg _ hstored
  obtain ⟨hkept, hflags⟩ := Bus.store_clearing hdma
  refine ⟨(registers.write 0 0).write 0 0, (bus.store .word 0x1f8010e8 0x11400000).1, ?_, h8'',
    hkept.trans hrom, hflags⟩
  rw [oneBank_after_succ, hthird, OneBank.step_sw (hrom.trans hbios) (by simp) rfl hclear rfl
    (by rw [h8']; rfl), h8', h9']
  rfl

/-- The processor before the fifth instruction of such a program. -/
def afterClearing (last : UInt32) : Cpu :=
  after (.ofWords [0x3c081f80, 0x3c091140, 0xad0910f4, 0xad0910e8, last]) 4

/-- The fifth instruction is about to be executed, with one flag set. -/
theorem fetches_afterClearing (last : UInt32) :
    (afterClearing last).Fetches ⟨last⟩ ∧ (afterClearing last).cop0.cacheIsolated = false ∧
      (afterClearing last).register 8 = 0x1f800000 ∧ (afterClearing last).bus.dma.flags = 0x40 := by
  obtain ⟨bios, hbios⟩ : ∃ bios, bios =
    Bios.ofWords [0x3c081f80, 0x3c091140, 0xad0910f4, 0xad0910e8, last] := ⟨_, rfl⟩
  rw [afterClearing, ← hbios]
  obtain ⟨registers, bus, hmachine, hbase, hrom, hflags⟩ := oneBank_after_clearing hbios
  have hpc : (after bios 4).pc = programAddress 4 := congrArg OneBank.pc hmachine
  have hbus : (after bios 4).bus = bus := congrArg OneBank.bus hmachine
  have hcop0 : (after bios 4).cop0 = .powerOn := congrArg OneBank.cop0 hmachine
  have hvisible : (after bios 4).visible = registers := congrArg OneBank.registers hmachine
  refine ⟨fetches_ofWords hpc (by rw [hbus, hrom, hbios]) (by simp) rfl, ?_, ?_, ?_⟩
  · rw [hcop0]
    decide
  · rw [register, hvisible, hbase]
  · rw [hbus, hflags]

/-- Where the fifth instruction stores relative to the start of the hardware
registers. -/
theorem memoryAddress_afterClearing (last offset : UInt32) :
    (afterClearing last).memoryAddress 8 offset = 0x1f800000 + offset := by
  rw [memoryAddress, (fetches_afterClearing last).2.2.1]

/-- A byte stored just below the flags. -/
theorem flags_beside_store_byte :
    (afterClearing 0xa10010f6).cop0.cacheIsolated = false ∧
      (afterClearing 0xa10010f6).Fetches ⟨0xa10010f6⟩ ∧
      (InstructionWord.mk 0xa10010f6).decode = .store .sb 0 8 0x10f6 ∧
      physical ((afterClearing 0xa10010f6).memoryAddress 8 0x10f6) &&& 0xfffffffc = 0x1f8010f4 ∧
      StoreOp.sb.covers ((afterClearing 0xa10010f6).memoryAddress 8 0x10f6) 3 = false ∧
      (afterClearing 0xa10010f6).bus.dma.flags = 0x40 ∧
      (afterClearing 0xa10010f6).step.1.bus.dma.flags = 0x40 := by
  have hdecode : (InstructionWord.mk 0xa10010f6).decode = .store .sb 0 8 0x10f6 := by decide
  obtain ⟨hfetch, hshared, -, hflags⟩ := fetches_afterClearing 0xa10010f6
  have hregister : physical ((afterClearing 0xa10010f6).memoryAddress 8 0x10f6) &&& 0xfffffffc =
      0x1f8010f4 := by
    rw [memoryAddress_afterClearing]
    decide
  have hcovers : StoreOp.sb.covers ((afterClearing 0xa10010f6).memoryAddress 8 0x10f6) 3 =
      false := by
    rw [memoryAddress_afterClearing]
    decide
  refine ⟨hshared, hfetch, hdecode, hregister, hcovers, hflags, ?_⟩
  rw [flags_beside_store hshared hfetch hdecode hregister hcovers, if_neg (by decide), hflags]

/-- The high byte of a word, stored to the lowest byte of the interrupt
register, acknowledges a flag in the highest. -/
theorem swl_acknowledges :
    (afterClearing 0xa90010f4).cop0.cacheIsolated = false ∧
      (afterClearing 0xa90010f4).Fetches ⟨0xa90010f4⟩ ∧
      (InstructionWord.mk 0xa90010f4).decode = .store .swl 0 8 0x10f4 ∧
      physical ((afterClearing 0xa90010f4).memoryAddress 8 0x10f4) &&& 0xfffffffc = 0x1f8010f4 ∧
      StoreOp.swl.covers ((afterClearing 0xa90010f4).memoryAddress 8 0x10f4) 3 = false ∧
      (afterClearing 0xa90010f4).bus.dma.flags = 0x40 ∧
      (afterClearing 0xa90010f4).step.1.bus.dma.flags = 0 := by
  have hdecode : (InstructionWord.mk 0xa90010f4).decode = .store .swl 0 8 0x10f4 := by decide
  obtain ⟨hfetch, hshared, -, hflags⟩ := fetches_afterClearing 0xa90010f4
  have haddress := memoryAddress_afterClearing 0xa90010f4 0x10f4
  have hregister : physical (0x1f800000 + 0x10f4) &&& 0xfffffffc = 0x1f8010f4 := by decide
  have hcovers : StoreOp.swl.covers (0x1f800000 + 0x10f4) 3 = false := by decide
  have hraise : (afterClearing 0xa90010f4).exception? (InstructionWord.mk 0xa90010f4).decode =
      none := hdecode ▸ exception?_swl _ _ _ _
  rw [haddress]
  refine ⟨hshared, hfetch, hdecode, hregister, hcovers, hflags, ?_⟩
  rw [(hfetch.step_store hdecode hraise).1, hshared, haddress,
    Bus.flags_storeBy (by decide) hregister hcovers, if_pos rfl]

end Cpu

end Playstation
