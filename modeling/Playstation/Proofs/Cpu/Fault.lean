import Playstation.Proofs.Bus.Refusal
import Playstation.Proofs.Cpu.Operation

/-!
# Host faults

A step meets a host fault where an address has nothing behind it, where a store
asks for what the machine cannot do, and where an instruction needs the geometry
coprocessor. Below, these are listed with their reasons, and there are no
others. An instruction which meets a fault has no effect on the processor, and
on the bus only that of a transfer which has failed.
-/

namespace Playstation

namespace Bus

variable {bus : Bus} {w : Width} {address value : UInt32} {cause : BusFault}

/-- An aligned peek is refused for its address only. -/
theorem peek_error_iff (haligns : w.aligns address = true) :
    bus.peek w address = .error cause ↔ refusal? address = some cause := by
  cases hrefusal : refusal? address with
  | some fault => rw [peek_of_refusal haligns hrefusal, Except.error.injEq, Option.some.injEq]
  | none =>
    obtain ⟨shown, hshown⟩ := @exists_peek_of_no_refusal bus w address haligns hrefusal
    rw [hshown]
    exact ⟨nofun, nofun⟩

/-- So is an aligned load. -/
theorem load_error_iff (haligns : w.aligns address = true) :
    (bus.load w address).2 = .error cause ↔ refusal? address = some cause :=
  @peek_error_iff (bus.notice w address) w address cause haligns

/-- A store which is refused leaves the bus as it is, or its transfer has
failed. -/
theorem store_kept_or_failsTransfer (h : (bus.store w address value).2 = some cause) :
    (bus.store w address value).1 = bus ∨ cause.failsTransfer = true := by
  obtain ⟨hkept, -⟩ | ⟨port, dma, reason, rfl, -, hfails⟩ := store_refused h
  · exact .inl hkept
  · cases reason with
    | invalidSyncMode | invalidRegister => exact hfails.elim
    | unsupportedTransfer | invalidLinkedList | malformedLinkedList => exact .inr rfl

variable {op : StoreOp} {isolated : Bool}

/-- Where a store instruction finds no word to merge with, that word cannot be
read. -/
theorem value_error (haligns : op.width.aligns (op.place address) = true)
    (h : op.value bus address value = .error cause) :
    refusal? (op.place address) = some cause := by
  rw [StoreOp.value] at h
  split at h
  · next hmerges =>
    rw [StoreOp.width_of_merges hmerges] at haligns
    cases hpeek : bus.peek .word (op.place address) with
    | ok old =>
      rw [hpeek] at h
      cases h
    | error fault =>
      rw [hpeek] at h
      cases h
      exact (peek_error_iff haligns).mp hpeek
  · cases h

/-- What a store instruction is refused for: the word around a misaligned
address cannot be read, or the bus refuses the store. -/
theorem storeBy_fault (haligns : op.width.aligns (op.place address) = true)
    (h : (bus.storeBy isolated op address value).2 = some cause) :
    ((bus.storeBy isolated op address value).1 = bus ∧
      refusal? (op.place address) = some cause) ∨
    ∃ stored, (bus.store op.width (op.place address) stored).2 = some cause ∧
      (bus.storeBy isolated op address value).1 =
        (bus.store op.width (op.place address) stored).1 := by
  rw [storeBy] at h ⊢
  cases hvalue : op.value bus address value with
  | error fault =>
    rw [hvalue] at h
    cases h
    exact .inl ⟨rfl, value_error haligns hvalue⟩
  | ok stored =>
    rw [hvalue] at h
    cases isolated with
    | true => cases h
    | false => exact .inr ⟨stored, h, rfl⟩

/-- A store instruction which is refused leaves the bus as it is, or its transfer
has failed. -/
theorem storeBy_kept_or_failsTransfer (haligns : op.width.aligns (op.place address) = true)
    (h : (bus.storeBy isolated op address value).2 = some cause) :
    (bus.storeBy isolated op address value).1 = bus ∨ cause.failsTransfer = true := by
  obtain ⟨hkept, -⟩ | ⟨stored, hstore, hafter⟩ := storeBy_fault haligns h
  · exact .inl hkept
  · rw [hafter]
    exact store_kept_or_failsTransfer hstore

end Bus

namespace InstructionWord

variable {word : InstructionWord} {op : GteOp} {value : UInt32}

/-- The first operation uses no coprocessor. -/
theorem decodeFunction_ne_gte : word.decodeFunction ≠ .gte op value := by
  intro h
  rw [decodeFunction] at h
  split at h <;> exact Instruction.noConfusion h

/-- The system coprocessor is another one. -/
theorem decodeCop0_ne_gte : word.decodeCop0 ≠ .gte op value := by
  intro h
  rw [decodeCop0] at h
  split at h
  case h_3 => split at h <;> exact Instruction.noConfusion h
  all_goals exact Instruction.noConfusion h

/-- The geometry coprocessor is used by words with one of three operations. -/
theorem decode_gte (h : word.decode = .gte op value) :
    value = word.value ∧ (word.op = 0x12 ∨ word.op = 0x32 ∨ word.op = 0x3a) := by
  rw [decode] at h
  split at h
  case h_1 => exact absurd h decodeFunction_ne_gte
  case h_17 => exact absurd h decodeCop0_ne_gte
  case h_19 hop =>
    cases h
    exact ⟨rfl, .inl (UInt32.toNat_inj.mp hop)⟩
  case h_35 hop =>
    cases h
    exact ⟨rfl, .inr (.inl (UInt32.toNat_inj.mp hop))⟩
  case h_39 hop =>
    cases h
    exact ⟨rfl, .inr (.inr (UInt32.toNat_inj.mp hop))⟩
  all_goals exact Instruction.noConfusion h

/-- All of these words use it. -/
theorem exists_decode_gte (h : word.op = 0x12 ∨ word.op = 0x32 ∨ word.op = 0x3a) :
    ∃ op, word.decode = .gte op word.value := by
  rcases h with h | h | h
  · exact ⟨.cop2, by rw [decode, h]; rfl⟩
  · exact ⟨.lwc2, by rw [decode, h]; rfl⟩
  · exact ⟨.swc2, by rw [decode, h]; rfl⟩

end InstructionWord

namespace Cpu

variable {cpu : Cpu} {word : InstructionWord} {fault : HostFault}

/-- A load which raises no exception is aligned. -/
theorem load_aligns {op : LoadOp} {rt base : Register} {offset : UInt32}
    (hraise : cpu.exception? (.load op rt base offset) = none) :
    op.width.aligns (op.place (cpu.memoryAddress base offset)) = true := by
  by_contra hmisaligned
  simp only [exception?, if_neg hmisaligned] at hraise
  cases hraise

/-- An aligned load raises no exception. -/
theorem exception?_load {op : LoadOp} {rt base : Register} {offset : UInt32}
    (haligns : op.width.aligns (op.place (cpu.memoryAddress base offset)) = true) :
    cpu.exception? (.load op rt base offset) = none := if_pos haligns

/-- The fault which an instruction without exception meets, if any. -/
def fault? (cpu : Cpu) (instruction : Instruction) : Option HostFault :=
  match instruction with
  | .load op _ base offset =>
    (Bus.refusal? (op.place (cpu.memoryAddress base offset))).map (.bus cpu.currentPc)
  | .store op rt base offset =>
    (cpu.bus.storeBy cpu.cop0.cacheIsolated op (cpu.memoryAddress base offset)
      (cpu.register rt)).2.map (.bus cpu.currentPc)
  | .gte _ word => some (.unimplementedGte cpu.currentPc word)
  | _ => none

/-- An instruction meets that fault when it is executed. -/
theorem perform_fault {instruction : Instruction} (hraise : cpu.exception? instruction = none) :
    (cpu.perform instruction).2 = cpu.fault? instruction := by
  cases instruction with
  | load op rt base offset =>
    have haligns := load_aligns hraise
    simp only [perform, performLoad_eq, fault?]
    cases hload : (cpu.bus.load op.width (op.place (cpu.memoryAddress base offset))).2 with
    | error cause =>
      rw [(Bus.load_error_iff haligns).mp hload]
      rfl
    | ok value =>
      cases hrefusal : Bus.refusal? (op.place (cpu.memoryAddress base offset)) with
      | none => rfl
      | some cause =>
        rw [(Bus.load_error_iff haligns).mpr hrefusal] at hload
        cases hload
  | store op rt base offset => rw [perform, performStore_eq, fault?]
  | _ => rfl

/-- An instruction which meets a fault does nothing but what its store does to
the bus. -/
theorem perform_of_fault {instruction : Instruction}
    (hraise : cpu.exception? instruction = none)
    (h : (cpu.perform instruction).2 = some fault) :
    (cpu.perform instruction).1 =
        { cpu with bus := (cpu.perform instruction).1.bus } ∧
      ((cpu.perform instruction).1.bus = cpu.bus ∨
        ∃ op rt base offset cause, instruction = .store op rt base offset ∧
          fault = .bus cpu.currentPc cause ∧ cause.failsTransfer = true) := by
  cases instruction with
  | load op rt base offset =>
    simp only [perform, performLoad_eq] at h ⊢
    cases hload : (cpu.bus.load op.width (op.place (cpu.memoryAddress base offset))).2 with
    | error cause => exact ⟨rfl, .inl (Bus.load_refused hload)⟩
    | ok value =>
      rw [hload] at h
      cases h
  | store op rt base offset =>
    simp only [perform, performStore_eq] at h ⊢
    obtain ⟨cause, hcause, rfl⟩ := Option.map_eq_some_iff.mp h
    refine ⟨trivial, ?_⟩
    obtain hkept | hfails := Bus.storeBy_kept_or_failsTransfer (store_aligns hraise) hcause
    · exact .inl hkept
    · exact .inr ⟨op, rt, base, offset, cause, rfl, rfl, hfails⟩
  | gte op word => exact ⟨rfl, .inl rfl⟩
  | _ => cases h

/-- A step without exception meets the fault of its instruction, on the bus as the
fetch leaves it. -/
theorem Fetches.step_fault (hfetch : cpu.Fetches word)
    (hraise : cpu.exception? word.decode = none) :
    cpu.step.2 = cpu.fetched.landPending.fault? word.decode := by
  rw [hfetch.step_of_perform hraise]
  exact perform_fault ((exception?_landed _ _).trans hraise)

/-- The host faults which the next step can meet, each with its reason. -/
inductive Faults (cpu : Cpu) : HostFault → Prop where
  /-- There is no instruction at the program counter. -/
  | fetch {cause : BusFault} (haligns : Width.word.aligns cpu.pc = true)
    (h : Bus.refusal? cpu.pc = some cause) : Faults cpu (.bus cpu.pc cause)
  /-- There is nothing to be loaded. -/
  | load {word : InstructionWord} {op : LoadOp} {rt base : Register} {offset : UInt32}
    {cause : BusFault} (hfetch : cpu.Fetches word) (hword : word.decode = .load op rt base offset)
    (haligns : op.width.aligns (op.place (cpu.memoryAddress base offset)) = true)
    (h : Bus.refusal? (op.place (cpu.memoryAddress base offset)) = some cause) :
    Faults cpu (.bus cpu.pc cause)
  /-- The bus, as the fetch leaves it, refuses the store. -/
  | store {word : InstructionWord} {op : StoreOp} {rt base : Register} {offset : UInt32}
    {cause : BusFault} (hfetch : cpu.Fetches word) (hword : word.decode = .store op rt base offset)
    (haligns : op.width.aligns (op.place (cpu.memoryAddress base offset)) = true)
    (h : (cpu.fetched.bus.storeBy cpu.cop0.cacheIsolated op (cpu.memoryAddress base offset)
      (cpu.register rt)).2 = some cause) :
    Faults cpu (.bus cpu.pc cause)
  /-- The instruction needs the geometry coprocessor. -/
  | gte {word : InstructionWord} (hfetch : cpu.Fetches word)
    (hop : word.op = 0x12 ∨ word.op = 0x32 ∨ word.op = 0x3a) :
    Faults cpu (.unimplementedGte cpu.pc word.value)

/-- The list of reasons is complete, and each of them is one. -/
theorem step_fault_iff : cpu.step.2 = some fault ↔ cpu.Faults fault := by
  constructor
  · intro h
    rcases cpu.step_cases with haligns | ⟨haligns, cause, hcause⟩ | ⟨word, hfetch⟩
    · rw [step_of_misaligned haligns] at h
      cases h
    · rw [step_of_refused haligns hcause] at h
      cases h
      exact .fetch haligns ((Bus.load_error_iff haligns).mp hcause)
    · cases hraise : cpu.exception? word.decode with
      | some exception =>
        rw [hfetch.step_of_exception hraise] at h
        cases h
      | none =>
        -- Three kinds of instructions can meet a fault.
        rw [hfetch.step_fault hraise] at h
        cases hword : word.decode with
        | load op rt base offset =>
          rw [hword] at h hraise
          obtain ⟨cause, hcause, rfl⟩ := Option.map_eq_some_iff.mp h
          exact .load hfetch hword (load_aligns hraise) hcause
        | store op rt base offset =>
          rw [hword] at h hraise
          obtain ⟨cause, hcause, rfl⟩ := Option.map_eq_some_iff.mp h
          exact .store hfetch hword (store_aligns hraise) hcause
        | gte op value =>
          rw [hword] at h
          obtain ⟨rfl, hop⟩ := InstructionWord.decode_gte hword
          cases h
          exact .gte hfetch hop
        | _ =>
          rw [hword] at h
          cases h
  · intro h
    cases h with
    | fetch haligns h => rw [step_of_refused haligns ((Bus.load_error_iff haligns).mpr h)]
    | @load word op rt base offset cause hfetch hword haligns h =>
      have hraise := @exception?_load cpu op rt base offset haligns
      rw [hfetch.step_fault (hword ▸ hraise), hword]
      exact Option.map_eq_some_iff.mpr ⟨_, h, rfl⟩
    | @store word op rt base offset cause hfetch hword haligns h =>
      have hraise := @exception?_store cpu op rt base offset haligns
      rw [hfetch.step_fault (hword ▸ hraise), hword]
      exact Option.map_eq_some_iff.mpr ⟨_, h, rfl⟩
    | gte hfetch hop =>
      obtain ⟨op, hword⟩ := InstructionWord.exists_decode_gte hop
      rw [hfetch.step_fault (by rw [hword]; rfl), hword]
      rfl

/-- Without an instruction at the program counter none is fetched. -/
theorem not_fetches_of_refusal {cause : BusFault} (haligns : Width.word.aligns cpu.pc = true)
    (h : Bus.refusal? cpu.pc = some cause) (word : InstructionWord) : ¬cpu.Fetches word := by
  intro hfetch
  have hloaded := hfetch.loaded
  rw [(Bus.load_error_iff haligns).mpr h] at hloaded
  cases hloaded

end Cpu

end Playstation
