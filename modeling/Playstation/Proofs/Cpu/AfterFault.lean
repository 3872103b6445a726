import Playstation.Proofs.Cpu.Fault

/-!
# Going on after a host fault

A fault ends a step, and the processor can be stepped again. Where an instruction
has been fetched, the next step goes on behind it, as if it had been the one
that does nothing. Where none could be fetched, there is no way to go on: nothing
that is done with the bus puts an instruction at the program counter, so that
every later step meets the same fault again.
-/

namespace Playstation

/-- A write to the zero register after another write makes no difference. -/
theorem RegisterBank.write_zero_write (bank : RegisterBank) (register : Register)
    (value other : UInt32) :
    (bank.write register value).write .zero other = bank.write register value := by
  change (((bank.set register value register.isLt).set 0 0).set 0 other).set 0 0 =
    (bank.set register value register.isLt).set 0 0
  rw [Vector.set_set, Vector.set_set]

namespace Cpu

variable {cpu : Cpu} {word : InstructionWord} {fault : HostFault} {cause : BusFault}

/-- A step which executes a given word, in the place of what its fetch has
found. -/
def stepOn (cpu : Cpu) (word : InstructionWord) : Cpu × Option HostFault :=
  ((cpu.fetched.landPending.execute word.decode).1.commit,
    (cpu.fetched.landPending.execute word.decode).2)

/-- The word zero is a shift of the zero register into itself. -/
theorem decode_zero : (InstructionWord.mk 0).decode = .shift .sll .zero .zero 0 := by decide

/-- The word zero does nothing. -/
theorem stepOn_nop (cpu : Cpu) : cpu.stepOn ⟨0⟩ = (cpu.fetched.landPending.commit, none) := by
  have hwrite (value : UInt32) :
      cpu.fetched.landPending.setRegister .zero value = cpu.fetched.landPending :=
    congrArg (fun output => { cpu.fetched.landPending with output })
      (RegisterBank.write_zero_write cpu.output cpu.pending.register cpu.pending.value value)
  rw [stepOn, decode_zero]
  exact congrArg (fun cpu => (commit cpu, none)) (hwrite _)

/-- An instruction which meets a fault leaves the processor as the word zero
does. -/
theorem Fetches.step_of_fault (hfetch : cpu.Fetches word) (h : cpu.step.2 = some fault) :
    cpu.step.1 = { (cpu.stepOn ⟨0⟩).1 with bus := cpu.step.1.bus } ∧
      (cpu.step.1.bus = (cpu.bus.load .word cpu.pc).1 ∨
        ∃ op rt base offset cause, word.decode = .store op rt base offset ∧
          fault = .bus cpu.pc cause ∧ cause.failsTransfer = true) := by
  cases hraise : cpu.exception? word.decode with
  | some exception =>
    rw [hfetch.step_of_exception hraise] at h
    cases h
  | none =>
    have hstep := hfetch.step_of_perform hraise
    rw [hstep] at h
    obtain ⟨hcpu, hbus⟩ := perform_of_fault ((exception?_landed _ _).trans hraise) h
    rw [stepOn_nop, hstep]
    refine ⟨?_, hbus⟩
    exact congrArg commit hcpu

/-- One processor comes from another by nothing that goes on in it: only the bus,
the address of the current instruction and the marks of branches can differ. -/
structure Waits (before after : Cpu) : Prop where
  /-- The program counter is kept. -/
  pc : after.pc = before.pc
  /-- What comes after the next instruction is kept. -/
  nextPc : after.nextPc = before.nextPc
  /-- The registers which instructions read are kept. -/
  visible : after.visible = before.visible
  /-- The registers which instructions write are kept. -/
  output : after.output = before.output
  /-- The high result word is kept. -/
  hi : after.hi = before.hi
  /-- The low result word is kept. -/
  lo : after.lo = before.lo
  /-- The system coprocessor is kept. -/
  cop0 : after.cop0 = before.cop0
  /-- The load that is on its way stays there. -/
  pending : after.pending = before.pending

/-- The start of a step waits. -/
theorem waits_begin (cpu : Cpu) : cpu.Waits cpu.begin := ⟨rfl, rfl, rfl, rfl, rfl, rfl, rfl, rfl⟩

/-- So does a change of the bus. -/
theorem waits_bus (cpu : Cpu) (bus : Bus) : cpu.Waits { cpu with bus } :=
  ⟨rfl, rfl, rfl, rfl, rfl, rfl, rfl, rfl⟩

/-- Waiting goes on. -/
theorem Waits.trans {first second third : Cpu} (h : first.Waits second)
    (hlater : second.Waits third) : first.Waits third where
  pc := hlater.pc.trans h.pc
  nextPc := hlater.nextPc.trans h.nextPc
  visible := hlater.visible.trans h.visible
  output := hlater.output.trans h.output
  hi := hlater.hi.trans h.hi
  lo := hlater.lo.trans h.lo
  cop0 := hlater.cop0.trans h.cop0
  pending := hlater.pending.trans h.pending

/-- Where there is no instruction, a step does not get further than its start. -/
theorem step_of_refusal (haligns : Width.word.aligns cpu.pc = true)
    (h : Bus.refusal? cpu.pc = some cause) : cpu.step = (cpu.begin, some (.bus cpu.pc cause)) := by
  have hload := (@Bus.load_error_iff cpu.bus _ _ cause haligns).mpr h
  rw [step_of_refused haligns hload, Bus.load_refused hload]
  rfl

/-- A step fails in its fetch if there is no instruction, which the address alone
decides. -/
theorem refusal_of_step (h : cpu.step.2 = some fault) (hnone : ∀ word, ¬cpu.Fetches word) :
    ∃ cause, fault = .bus cpu.pc cause ∧ Width.word.aligns cpu.pc = true ∧
      Bus.refusal? cpu.pc = some cause := by
  cases step_fault_iff.mp h with
  | fetch haligns hrefusal => exact ⟨_, rfl, haligns, hrefusal⟩
  | load hfetch | store hfetch | gte hfetch => exact absurd hfetch (hnone _)

/-- Whatever is done with it, a processor without an instruction waits, and its bus
sees what is done from outside. -/
theorem waits_operateAll (haligns : Width.word.aligns cpu.pc = true)
    (h : Bus.refusal? cpu.pc = some cause) (operations : List Operation) :
    cpu.Waits (cpu.operateAll operations) ∧
      (cpu.operateAll operations).bus =
        cpu.bus.performAll (operations.filterMap Operation.outside?) := by
  induction operations using List.reverseRecOn with
  | nil => exact ⟨cpu.waits_bus cpu.bus, rfl⟩
  | append_singleton operations operation ih =>
    obtain ⟨hwaits, hbus⟩ := ih
    rw [operateAll_concat, List.filterMap_append]
    cases operation with
    | step =>
      have hstep := @step_of_refusal (cpu.operateAll operations) cause
        (by rw [hwaits.pc]; exact haligns) (by rw [hwaits.pc]; exact h)
      rw [operate, hstep]
      refine ⟨hwaits.trans (waits_begin _), hbus.trans ?_⟩
      exact congrArg _ (List.append_nil _).symm
    | bus operation =>
      rw [operate]
      refine ⟨hwaits.trans (waits_bus _ _), ?_⟩
      rw [hbus]
      exact (cpu.bus.performAll_concat _ operation).symm

/-- Where a step meets a fault after its fetch, it leaves the processor as if the
word zero had been fetched, and the bus as the fetch leaves it, unless the
instruction is a store whose transfer fails. Where a step fails in its fetch, it
leaves the program counters, the registers, the coprocessor, the load on its way
and the bus, and that stays so: whatever is done with the bus in between, every
later step meets the same fault and changes none of these. -/
theorem after_fault (cpu : Cpu) {fault : HostFault} (h : cpu.step.2 = some fault) :
    (∀ word, cpu.Fetches word →
      cpu.step = cpu.stepOn word ∧
      cpu.step.1 = { (cpu.stepOn ⟨0⟩).1 with bus := cpu.step.1.bus } ∧
      (cpu.step.1.bus = (cpu.bus.load .word cpu.pc).1 ∨
        ∃ op rt base offset cause, word.decode = .store op rt base offset ∧
          fault = .bus cpu.pc cause ∧ cause.failsTransfer = true)) ∧
    ((∀ word, ¬cpu.Fetches word) → ∀ operations : List Operation,
      let later := cpu.operateAll operations
      cpu.Waits later ∧
        later.bus = cpu.bus.performAll (operations.filterMap Operation.outside?) ∧
        later.step.2 = some fault ∧ later.Waits later.step.1 ∧ later.step.1.bus = later.bus) := by
  refine ⟨fun word hfetch => ⟨hfetch.step_eq, hfetch.step_of_fault h⟩, ?_⟩
  intro hnone operations later
  obtain ⟨cause, rfl, haligns, hrefusal⟩ := refusal_of_step h hnone
  obtain ⟨hwaits, hbus⟩ := waits_operateAll haligns hrefusal operations
  have hstep := @step_of_refusal later cause (by rw [hwaits.pc]; exact haligns)
    (by rw [hwaits.pc]; exact hrefusal)
  rw [hstep]
  exact ⟨hwaits, hbus, congrArg (fun pc => some (HostFault.bus pc cause)) hwaits.pc,
    waits_begin _, rfl⟩

/-- The processor after a jump from the boot ROM to where nothing is mapped. -/
def afterJump : Cpu := after (.ofWords [0x08000000, 0]) 2

/-- The jump has been to the start of the 256 MB around its delay slot. -/
theorem pc_afterJump : afterJump.pc = 0xb0000000 := by
  obtain ⟨bios, hbios⟩ : ∃ bios, bios = Bios.ofWords [0x08000000, 0] := ⟨_, rfl⟩
  have hjump : (InstructionWord.mk 0x08000000).decode = .j 0 := by decide
  have hfirst : (after bios 0).Fetches ⟨0x08000000⟩ :=
    @fetches_ofWords _ _ _ 0 rfl hbios (by simp) rfl
  have hstep : after bios 1 = ((after bios 0).fetched.landPending.compute (.j 0)).commit := by
    rw [after_succ, hfirst.step_of_perform (by rw [hjump]; rfl), hjump]
    rfl
  have hload : ((after bios 0).bus.load .word (programAddress 0)).1 = (after bios 0).bus :=
    congrArg Prod.fst (@load_programAddress [0x08000000, 0] _ 0 _ hbios (by simp) rfl)
  have hsecond : (after bios 1).Fetches ⟨0⟩ := by
    refine @fetches_ofWords _ [0x08000000, 0] _ 1 ?_ ?_ (by simp) rfl
    · rw [hstep]
      rfl
    · rw [hstep]
      exact (congrArg Bus.bios hload).trans hbios
  have hnext : (after bios 1).nextPc = 0xb0000000 := by
    rw [hstep]
    change (resetAddress + (4 : UInt32) &&& 0xf0000000) ||| (0 : UInt32) <<< (2 : UInt32) =
      0xb0000000
    decide
  rw [afterJump, ← hbios, after_succ, hsecond.step_of_perform (by rw [decode_zero]; rfl),
    decode_zero]
  exact hnext

/-- Once a program has jumped to where nothing is mapped, each step meets the same
fault, also when a word has been stored there and the port of the graphics
processor has been read. An instruction for the geometry coprocessor is passed
over. -/
theorem after_fault_afterJump :
    afterJump.step.2 = some (.bus 0xb0000000 (.unmapped 0x10000000)) ∧
    (∀ word, ¬afterJump.Fetches word) ∧
    (afterJump.operateAll [.step, .bus (.store .word 0xb0000000 0),
      .bus (.load .word 0x1f801810), .step]).step.2 =
        some (.bus 0xb0000000 (.unmapped 0x10000000)) ∧
    (powerOn (.ofWord 0x48000000)).Fetches ⟨0x48000000⟩ ∧
    (powerOn (.ofWord 0x48000000)).step.2 = some (.unimplementedGte 0xbfc00000 0x48000000) ∧
    (powerOn (.ofWord 0x48000000)).step.1.pc = 0xbfc00004 := by
  have haligns : Width.word.aligns afterJump.pc = true := by
    rw [pc_afterJump]
    decide
  have hrefusal : Bus.refusal? afterJump.pc = some (.unmapped 0x10000000) := by
    rw [pc_afterJump]
    decide
  have hnone : ∀ word, ¬afterJump.Fetches word := not_fetches_of_refusal haligns hrefusal
  have hfault : afterJump.step.2 = some (.bus 0xb0000000 (.unmapped 0x10000000)) := by
    rw [step_fault_iff, ← pc_afterJump]
    exact .fetch haligns hrefusal
  have hfetch := fetches_ofWord 0x48000000
  have hgte : (powerOn (.ofWord 0x48000000)).step.2 =
      some (.unimplementedGte 0xbfc00000 0x48000000) := by
    rw [step_fault_iff]
    exact .gte hfetch (.inl (by decide))
  have hpassed := ((after_fault _ hgte).1 _ hfetch).2.1
  rw [stepOn_nop] at hpassed
  exact ⟨hfault, hnone, ((after_fault _ hfault).2 hnone _).2.2.1, hfetch, hgte,
    congrArg Cpu.pc hpassed⟩

end Cpu

end Playstation
