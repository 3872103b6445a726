import Playstation.Proofs.Cpu.PreciseException
import Playstation.Proofs.Cpu.Program

/-!
# Stores

A store instruction that raises no exception is an operation of the bus: the
stores of a misaligned word read the word around their address first, and
nothing is stored while the cache is isolated. So an isolated store never
changes the bus. It is not always dropped without a fault, however: the word
around the address of a misaligned store is read before the cache is asked,
and where that word cannot be read the step ends in a host fault.
-/

namespace Playstation

/-- The value which a store instruction stores, where the stores of a
misaligned word are merged into the word which the bus shows. -/
def StoreOp.value (op : StoreOp) (bus : Bus) (address value : UInt32) : Except BusFault UInt32 :=
  if op.merges then
    (bus.peek .word (op.place address)).map fun old => op.combine address old value
  else .ok (op.combine address 0 value)

/-- The store instructions which read a word first access whole words. -/
theorem StoreOp.width_of_merges {op : StoreOp} (h : op.merges = true) : op.width = .word := by
  cases op with
  | sb | sh | sw => cases h
  | swl | swr => rfl

/-- What a store instruction does to the bus. -/
def Bus.storeBy (bus : Bus) (isolated : Bool) (op : StoreOp) (address value : UInt32) :
    Bus × Option BusFault :=
  match op.value bus address value with
  | .error fault => (bus, some fault)
  | .ok value => if isolated then (bus, none) else bus.store op.width (op.place address) value

namespace Bus

variable {bus : Bus} {op : StoreOp} {address value : UInt32}

/-- An isolated store leaves the bus as it is, and is refused if it has to read
a word that cannot be read. -/
theorem storeBy_isolated (haligns : op.width.aligns (op.place address) = true) :
    bus.storeBy true op address value =
      (bus, if op.merges then refusal? (op.place address) else none) := by
  rw [storeBy, StoreOp.value]
  cases hmerges : op.merges with
  | false => rfl
  | true =>
    rw [StoreOp.width_of_merges hmerges] at haligns
    rw [if_pos rfl, if_pos rfl]
    cases hrefusal : refusal? (op.place address) with
    | some fault => rw [peek_of_refusal haligns hrefusal, Except.map]
    | none =>
      obtain ⟨old, hold⟩ := @exists_peek_of_no_refusal bus .word _ haligns hrefusal
      rw [hold, Except.map]
      rfl

end Bus

namespace Cpu

variable {cpu : Cpu} {word : InstructionWord} {op : StoreOp} {rt base : Register} {offset : UInt32}

/-- A store changes the bus and nothing else of the processor. -/
theorem performStore_eq (cpu : Cpu) (op : StoreOp) (rt base : Register) (offset : UInt32) :
    cpu.performStore op rt base offset =
      ({ cpu with
          bus := (cpu.bus.storeBy cpu.cop0.cacheIsolated op (cpu.memoryAddress base offset)
            (cpu.register rt)).1 },
        (cpu.bus.storeBy cpu.cop0.cacheIsolated op (cpu.memoryAddress base offset)
          (cpu.register rt)).2.map (.bus cpu.currentPc)) := by
  have hstored (value : UInt32) :
      cpu.storeValue op.width (op.place (cpu.memoryAddress base offset)) value =
        ({ cpu with
            bus := (if cpu.cop0.cacheIsolated then (cpu.bus, none) else cpu.bus.store op.width
              (op.place (cpu.memoryAddress base offset)) value).1 },
          (if cpu.cop0.cacheIsolated then (cpu.bus, none) else cpu.bus.store op.width
            (op.place (cpu.memoryAddress base offset)) value).2.map (.bus cpu.currentPc)) := by
    rw [storeValue]
    split
    · rfl
    · rw [onBus_eq]
  rw [performStore, Bus.storeBy, StoreOp.value]
  split
  · cases cpu.bus.peek .word (op.place (cpu.memoryAddress base offset)) with
    | error fault => rfl
    | ok old => exact hstored _
  · exact hstored _

/-- A store which raises no exception is aligned. -/
theorem store_aligns (hraise : cpu.exception? (.store op rt base offset) = none) :
    op.width.aligns (op.place (cpu.memoryAddress base offset)) = true := by
  by_contra hmisaligned
  simp only [exception?, if_neg hmisaligned] at hraise
  cases hraise

/-- An aligned store raises no exception. -/
theorem exception?_store
    (haligns : op.width.aligns (op.place (cpu.memoryAddress base offset)) = true) :
    cpu.exception? (.store op rt base offset) = none := if_pos haligns

/-- The store of the high bytes of a misaligned word raises no exception. -/
theorem exception?_swl (cpu : Cpu) (rt base : Register) (offset : UInt32) :
    cpu.exception? (.store .swl rt base offset) = none := exception?_store (aligns_masked _)

/-- The step of a store without exception does to the bus what the instruction
does, after its fetch, and meets the same fault. -/
theorem Fetches.step_store (hfetch : cpu.Fetches word)
    (hword : word.decode = .store op rt base offset) (hraise : cpu.exception? word.decode = none) :
    cpu.step.1.bus =
        (cpu.fetched.bus.storeBy cpu.cop0.cacheIsolated op (cpu.memoryAddress base offset)
          (cpu.register rt)).1 ∧
      cpu.step.2 =
        (cpu.fetched.bus.storeBy cpu.cop0.cacheIsolated op (cpu.memoryAddress base offset)
          (cpu.register rt)).2.map (.bus cpu.pc) := by
  rw [hfetch.step_of_perform hraise, hword, perform, performStore_eq]
  exact ⟨rfl, rfl⟩

/-- With the cache isolated, a store which raises no exception leaves the whole
bus as the instruction fetch has left it. It meets no host fault, except that
the stores of a misaligned word are refused where the word around their address
cannot be read. -/
theorem isolated_store (hisolated : cpu.cop0.cacheIsolated = true) (hfetch : cpu.Fetches word)
    (hword : word.decode = .store op rt base offset)
    (hraise : cpu.exception? word.decode = none) :
    cpu.step.1.bus = (cpu.bus.load .word cpu.pc).1 ∧
      cpu.step.2 =
        (if op.merges then Bus.refusal? (op.place (cpu.memoryAddress base offset)) else none).map
          (.bus cpu.pc) := by
  have haligns := store_aligns (hword ▸ hraise)
  obtain ⟨hbus, hfault⟩ := hfetch.step_store hword hraise
  rw [hisolated, Bus.storeBy_isolated haligns] at hbus hfault
  exact ⟨hbus, hfault⟩

/-- A program whose first two instructions set bit 16 of the status register
has isolated the cache before its third one, and nothing else has happened but
in the registers. -/
theorem oneBank_after_isolating {bios : Bios} {last : UInt32}
    (hbios : bios = .ofWords [0x3c080001, 0x40886000, last]) :
    ∃ registers, (after bios 2).oneBank =
      .inOrder 2 registers { Cop0.powerOn with sr := 0x10000 } (.powerOn bios) := by
  have hlui : (InstructionWord.mk 0x3c080001).decode = .lui 8 1 := by decide
  have hmtc0 : (InstructionWord.mk 0x40886000).decode = .mtc0 8 12 := by decide
  have hfirst : (after bios 1).oneBank =
      .inOrder 1 (RegisterBank.write (RegisterBank.write (Vector.replicate 32 0) 0 0) 8 0x10000)
        .powerOn (.powerOn bios) := by
    rw [oneBank_after_succ, oneBank_after_zero, OneBank.step_lui hbios (by simp) rfl hlui]
    rfl
  refine ⟨RegisterBank.write
    (RegisterBank.write (RegisterBank.write (Vector.replicate 32 0) 0 0) 8 0x10000) 0 0, ?_⟩
  rw [oneBank_after_succ, hfirst, OneBank.step_inOrder hbios (by simp) rfl, hmtc0]
  rfl

/-- The processor before the third instruction of such a program. -/
def afterIsolating (last : UInt32) : Cpu := after (.ofWords [0x3c080001, 0x40886000, last]) 2

/-- The third instruction is about to be executed, with an isolated cache and
an empty zero register. -/
theorem fetches_afterIsolating (last : UInt32) :
    (afterIsolating last).Fetches ⟨last⟩ ∧ (afterIsolating last).cop0.cacheIsolated = true ∧
      (afterIsolating last).pc = 0xbfc00008 ∧ (afterIsolating last).register 0 = 0 := by
  obtain ⟨bios, hbios⟩ : ∃ bios, bios = Bios.ofWords [0x3c080001, 0x40886000, last] := ⟨_, rfl⟩
  rw [afterIsolating, ← hbios]
  obtain ⟨registers, hmachine⟩ := oneBank_after_isolating hbios
  have hpc : (after bios 2).pc = programAddress 2 := congrArg OneBank.pc hmachine
  have hrom : (after bios 2).bus.bios = bios :=
    congrArg (fun machine => machine.bus.bios) hmachine
  have hcop0 : (after bios 2).cop0 = { Cop0.powerOn with sr := 0x10000 } :=
    congrArg OneBank.cop0 hmachine
  refine ⟨fetches_ofWords hpc (hrom.trans hbios) (by simp) rfl, ?_, ?_, ?_⟩
  · rw [hcop0]
    decide
  · rw [hpc]
    decide
  · exact (reachable_after bios 2).banks.2

/-- Where the third instruction stores relative to zero. -/
theorem memoryAddress_afterIsolating (last offset : UInt32) :
    (afterIsolating last).memoryAddress 0 offset = offset := by
  rw [memoryAddress, (fetches_afterIsolating last).2.2.2, UInt32.zero_add]

/-- A word stored where nothing is mapped, with the cache isolated. -/
theorem isolated_store_unmapped :
    (afterIsolating 0xac00fffc).cop0.cacheIsolated = true ∧
      (afterIsolating 0xac00fffc).Fetches ⟨0xac00fffc⟩ ∧
      (InstructionWord.mk 0xac00fffc).decode = .store .sw 0 0 0xfffffffc ∧
      (afterIsolating 0xac00fffc).exception? (InstructionWord.mk 0xac00fffc).decode = none ∧
      (afterIsolating 0xac00fffc).step.1.bus =
        ((afterIsolating 0xac00fffc).bus.load .word (afterIsolating 0xac00fffc).pc).1 ∧
      (afterIsolating 0xac00fffc).step.2 = none := by
  have hdecode : (InstructionWord.mk 0xac00fffc).decode = .store .sw 0 0 0xfffffffc := by decide
  obtain ⟨hfetch, hisolated, -, -⟩ := fetches_afterIsolating 0xac00fffc
  have hraise : (afterIsolating 0xac00fffc).exception? (InstructionWord.mk 0xac00fffc).decode =
      none := by
    rw [hdecode]
    simp only [exception?, memoryAddress_afterIsolating]
    decide
  exact ⟨hisolated, hfetch, hdecode, hraise, isolated_store hisolated hfetch hdecode hraise⟩

/-- The high bytes of a word stored where nothing is mapped, with the cache
isolated, end the step in a host fault. -/
theorem isolated_swl_refused :
    (afterIsolating 0xa800ffff).cop0.cacheIsolated = true ∧
      (afterIsolating 0xa800ffff).Fetches ⟨0xa800ffff⟩ ∧
      (InstructionWord.mk 0xa800ffff).decode = .store .swl 0 0 0xffffffff ∧
      (afterIsolating 0xa800ffff).exception? (InstructionWord.mk 0xa800ffff).decode = none ∧
      (afterIsolating 0xa800ffff).step.2 = some (.bus 0xbfc00008 (.unmapped 0xfffffffc)) := by
  have hdecode : (InstructionWord.mk 0xa800ffff).decode = .store .swl 0 0 0xffffffff := by decide
  obtain ⟨hfetch, hisolated, hpc, -⟩ := fetches_afterIsolating 0xa800ffff
  have hraise : (afterIsolating 0xa800ffff).exception? (InstructionWord.mk 0xa800ffff).decode =
      none := hdecode ▸ exception?_swl _ _ _ _
  have haligns : StoreOp.swl.width.aligns (StoreOp.swl.place 0xffffffff) = true := by decide
  have hrefusal : Bus.refusal? (StoreOp.swl.place 0xffffffff) = some (.unmapped 0xfffffffc) := by
    decide
  refine ⟨hisolated, hfetch, hdecode, hraise, ?_⟩
  rw [(hfetch.step_store hdecode hraise).2, hisolated, memoryAddress_afterIsolating,
    Bus.storeBy_isolated haligns, hpc, hrefusal]
  rfl

end Cpu

end Playstation
