import Playstation.Cpu.Step
import Playstation.Proofs.Memory

/-!
# The ways a step can go

A step finds its program counter misaligned, is refused its instruction word,
or fetches one and executes it. Each of the three has one equation here, and
what is proved of a step elsewhere follows from these. States are reached from
power on by any number of steps, whether they end in a host fault or not.
-/

namespace Playstation

namespace Cpu

/-- What holds of the processor some number of steps after power on. A host
fault ends a step, and the next step goes on from the state it left. -/
inductive Reachable (bios : Bios) : Cpu → Prop where
  /-- The processor at power on. -/
  | powerOn : Reachable bios (powerOn bios)
  /-- The processor after one more step. -/
  | step {cpu : Cpu} (before : Reachable bios cpu) : Reachable bios cpu.step.1

/-- The fetch of the next step finds an instruction word. -/
structure Fetches (cpu : Cpu) (word : InstructionWord) : Prop where
  /-- The program counter is a multiple of four. -/
  aligns : Width.word.aligns cpu.pc = true
  /-- The bus has the word there. -/
  loaded : (cpu.bus.load .word cpu.pc).2 = .ok word.value

/-- The processor when an instruction has been fetched and the program counter
moved past it, before the load of the previous instruction lands. -/
def fetched (cpu : Cpu) : Cpu :=
  { cpu.begin with
    pc := cpu.nextPc
    nextPc := cpu.nextPc + 4
    bus := (cpu.bus.load .word cpu.pc).1 }

variable {cpu : Cpu} {word : InstructionWord}

/-- An action on the bus changes the bus and nothing else. -/
theorem onBus_eq {α : Type} (cpu : Cpu) (action : Bus → Bus × α) :
    cpu.onBus action = ({ cpu with bus := (action cpu.bus).1 }, (action cpu.bus).2) := rfl

/-- A misaligned program counter raises an exception in the place of an
instruction. -/
theorem step_of_misaligned (h : Width.word.aligns cpu.pc = false) :
    cpu.step = ((cpu.begin.landPending.raise (.addressLoadError cpu.pc)).commit, none) := by
  have hbegin : Width.word.aligns cpu.begin.pc = false := h
  rw [step]
  simp only [hbegin, Bool.false_eq_true, if_false]
  rfl

/-- A fetch which the bus refuses ends the step at once. -/
theorem step_of_refused {fault : BusFault} (h : Width.word.aligns cpu.pc = true)
    (hfault : (cpu.bus.load .word cpu.pc).2 = .error fault) :
    cpu.step =
      ({ cpu.begin with bus := (cpu.bus.load .word cpu.pc).1 }, some (.bus cpu.pc fault)) := by
  have hbegin : Width.word.aligns cpu.begin.pc = true := h
  have hfetch : cpu.begin.fetch =
      ({ cpu.begin with bus := (cpu.bus.load .word cpu.pc).1 }, .error fault) := by
    rw [fetch, onBus_eq]
    simp only [begin, hfault, Except.map]
  rw [step]
  simp only [hbegin, if_true, hfetch]
  rfl

/-- A fetched instruction is executed when the load of the previous one has
landed, and its results become visible in any case. -/
theorem Fetches.step_eq (h : cpu.Fetches word) :
    cpu.step = ((cpu.fetched.landPending.execute word.decode).1.commit,
      (cpu.fetched.landPending.execute word.decode).2) := by
  have hbegin : Width.word.aligns cpu.begin.pc = true := h.aligns
  have hfetch : cpu.begin.fetch =
      ({ cpu.begin with bus := (cpu.bus.load .word cpu.pc).1 }, .ok word) := by
    rw [fetch, onBus_eq]
    simp only [begin, h.loaded, Except.map]
  rw [step]
  simp only [hbegin, if_true, hfetch]
  rfl

/-- There is one word which a step fetches. -/
theorem Fetches.unique {other : InstructionWord} (h : cpu.Fetches word)
    (hother : cpu.Fetches other) : word = other := by
  have hsame : Except.ok (ε := BusFault) word.value = .ok other.value :=
    h.loaded.symm.trans hother.loaded
  cases word
  cases other
  cases hsame
  rfl

/-- Neither the fetch nor the load that lands makes a difference to the exception
of an instruction. -/
theorem exception?_landed (cpu : Cpu) (instruction : Instruction) :
    cpu.fetched.landPending.exception? instruction = cpu.exception? instruction := by
  cases instruction <;> rfl

/-- The step of an instruction which raises an exception enters that. -/
theorem Fetches.step_of_exception {exception : Exception} (hfetch : cpu.Fetches word)
    (hraise : cpu.exception? word.decode = some exception) :
    cpu.step = ((cpu.fetched.landPending.raise exception).commit, none) := by
  rw [← exception?_landed] at hraise
  rw [hfetch.step_eq, execute, hraise]

/-- The step of another instruction performs it. -/
theorem Fetches.step_of_perform (hfetch : cpu.Fetches word)
    (hraise : cpu.exception? word.decode = none) :
    cpu.step = ((cpu.fetched.landPending.perform word.decode).1.commit,
      (cpu.fetched.landPending.perform word.decode).2) := by
  rw [← exception?_landed] at hraise
  rw [hfetch.step_eq, execute, hraise]

/-- Every step goes one of the three ways. -/
theorem step_cases (cpu : Cpu) :
    Width.word.aligns cpu.pc = false ∨
    (Width.word.aligns cpu.pc = true ∧ ∃ fault, (cpu.bus.load .word cpu.pc).2 = .error fault) ∨
    ∃ word, cpu.Fetches word := by
  cases haligns : Width.word.aligns cpu.pc with
  | false => exact .inl rfl
  | true =>
    cases hloaded : (cpu.bus.load .word cpu.pc).2 with
    | ok value => exact .inr (.inr ⟨⟨value⟩, haligns, hloaded⟩)
    | error fault => exact .inr (.inl ⟨rfl, fault, rfl⟩)

/-- The first step from power on fetches the first word of the boot ROM. -/
theorem fetches_powerOn (bios : Bios) : (powerOn bios).Fetches ⟨bios.image.load .word 0⟩ := by
  have haligns : Width.word.aligns resetAddress = true := by decide
  refine ⟨haligns, ?_⟩
  have hregion : Region.find? (physical resetAddress) = some .bios := by decide
  have hquiet : Bus.readsImage .word resetAddress = false := by decide
  have hoffset : (Region.bios.offsetOf (physical resetAddress)).toNat = 0 := by decide
  simp only [powerOn, Bus.load, Bus.notice, hquiet, Bool.false_eq_true, if_false, Bus.peek,
    haligns, if_true, hregion, Bus.peekRegion, hoffset, Bus.powerOn]

/-- A word is fetched where it is the first one. -/
theorem fetches_ofWord (word : UInt32) : (powerOn (.ofWord word)).Fetches ⟨word⟩ := by
  have hread : (Bios.ofWord word).image.load .word 0 = word :=
    Bytes.load_store_word _ word (by decide)
  have hfetch := fetches_powerOn (.ofWord word)
  rw [hread] at hfetch
  exact hfetch

end Cpu

end Playstation
