import Playstation.Proofs.Bus.MainMemory
import Playstation.Proofs.Cpu.Fault
import Playstation.Proofs.WordEnd

/-!
# Misaligned words

Two instructions, one for each end, load a misaligned word into a register, and
two store one. Each load is merged into what its target is about to hold, so the
second of a pair finds the bytes of the first although these are still on their
way. The main statements are that a pair loads the word at any address of main
memory, in either order, and that a pair stores the four bytes of one and
nothing else.
-/

namespace Playstation

namespace Cpu

/-- The next step executes the load of an end of the word at an address. -/
def LoadsEnd (cpu : Cpu) (part : WordEnd) (rt : Register) (address : UInt32) : Prop :=
  ∃ word base offset, cpu.Fetches word ∧ word.decode = .load part.loadOp rt base offset ∧
    cpu.memoryAddress base offset = address + part.distance

/-- The next step executes the store of an end of the word at an address. -/
def StoresEnd (cpu : Cpu) (part : WordEnd) (rt : Register) (address : UInt32) : Prop :=
  ∃ word base offset, cpu.Fetches word ∧ word.decode = .store part.storeOp rt base offset ∧
    cpu.memoryAddress base offset = address + part.distance

/-- What a step leaves which executes the load of an end of the word at an offset
of main memory. -/
structure EndLoaded (cpu : Cpu) (part : WordEnd) (rt : Register) (offset : Nat) : Prop where
  /-- The step meets no fault. -/
  runs : cpu.step.2 = none
  /-- The instruction which was to come next does. -/
  next : cpu.step.1.pc = cpu.nextPc
  /-- A load is on its way to the target. -/
  target : cpu.step.1.pending.register = rt
  /-- The bytes of the end come from memory, the others from what the target is
  about to hold. -/
  bytes {k : Nat} (hk : k < 4) : wordByte cpu.step.1.pending.value k =
    if part.Covers offset k then cpu.bus.ram.get (offset + k)
    else wordByte (cpu.landPending.output.get rt) k
  /-- Only the load of the previous instruction is written to a register. -/
  output : cpu.step.1.output = cpu.landPending.output
  /-- Nothing else becomes visible. -/
  visible : cpu.step.1.visible = cpu.landPending.output
  /-- The bus is as the fetch has left it. -/
  bus : cpu.step.1.bus = cpu.fetched.bus

/-- What a step leaves which executes the store of an end of the word at an
offset of main memory. -/
structure EndStored (cpu : Cpu) (part : WordEnd) (rt : Register) (offset : Nat) : Prop where
  /-- The step meets no fault. -/
  runs : cpu.step.2 = none
  /-- The instruction which was to come next does. -/
  next : cpu.step.1.pc = cpu.nextPc
  /-- The bytes of the end come from the register, and the others stay. -/
  bytes {i : Nat} (hi : i < ramSize) : cpu.step.1.bus.ram.get i =
    if offset ≤ i ∧ i < offset + 4 ∧ part.Covers offset (i - offset) then
      wordByte (cpu.register rt) (i - offset)
    else cpu.bus.ram.get i
  /-- Main memory is all of the bus that is stored to. -/
  bus : cpu.step.1.bus = { cpu.fetched.bus with ram := cpu.step.1.bus.ram }
  /-- Nothing is on its way to a register. -/
  pending : cpu.step.1.pending = .none
  /-- Only the load of the previous instruction is written to a register. -/
  output : cpu.step.1.output = cpu.landPending.output
  /-- Nothing else becomes visible. -/
  visible : cpu.step.1.visible = cpu.landPending.output
  /-- The system coprocessor stays as it is. -/
  cop0 : cpu.step.1.cop0 = cpu.cop0

variable {cpu : Cpu} {part : WordEnd} {rt : Register} {segment : Segment} {offset : Nat}

/-- Fetching an instruction changes nothing of the bus but the graphics
processor. -/
theorem fetched_bus (cpu : Cpu) :
    cpu.fetched.bus = { cpu.bus with gpu := cpu.fetched.bus.gpu } :=
  Bus.notice_eq_withGpu _ _ _

/-- So main memory is the same after it, also once the load of the previous
instruction has landed. -/
theorem fetched_ram (cpu : Cpu) : cpu.fetched.landPending.bus.ram = cpu.bus.ram := by
  rw [show cpu.fetched.landPending.bus = cpu.fetched.bus from rfl, fetched_bus]

/-- The word of memory to which an instruction for an end goes is an aligned one
in main memory. -/
theorem address_place (part : WordEnd) (segment : Segment) (hfits : offset + 4 ≤ ramSize) :
    Width.word.aligns (segment.address (part.place offset)) = true ∧
      Region.find? (physical (segment.address (part.place offset))) = some .ram ∧
      (physical (segment.address (part.place offset))).toNat = part.place offset := by
  have hplace := part.place_lt hfits
  refine ⟨?_, segment.find?_address hplace,
    segment.toNat_physical_address (Nat.lt_trans hplace (by decide))⟩
  rw [← part.upperBits_address segment hfits]
  exact aligns_masked _

/-- The load of an end of a word in main memory succeeds. -/
theorem LoadsEnd.loaded (h : cpu.LoadsEnd part rt (segment.address offset))
    (hfits : offset + 4 ≤ ramSize) : cpu.EndLoaded part rt offset := by
  obtain ⟨word, base, immediate, hfetch, hword, haddress⟩ := h
  obtain ⟨haligns, hregion, hplace⟩ := address_place part segment hfits
  have hop : part.loadOp.width = .word ∧
      part.loadOp.place (segment.address offset + part.distance) =
        segment.address (part.place offset) := by
    cases part <;> exact ⟨rfl, WordEnd.upperBits_address _ segment hfits⟩
  have hraise : cpu.exception? (.load part.loadOp rt base immediate) = none := by
    refine exception?_load ?_
    rw [haddress, hop.1, hop.2]
    exact haligns
  have hlanded : cpu.fetched.landPending.memoryAddress base immediate =
      segment.address offset + part.distance := haddress
  have hstep := hfetch.step_of_perform (hword ▸ hraise)
  rw [hword, perform, performLoad_eq] at hstep
  simp only [hlanded, hop.1, hop.2, Bus.load_of_ram haligns hregion, hplace, fetched_ram]
    at hstep
  refine ⟨by rw [hstep], by rw [hstep]; rfl, by rw [hstep]; rfl, fun hk => ?_, by rw [hstep]; rfl,
    by rw [hstep]; rfl, by rw [hstep]; rfl⟩
  rw [hstep]
  exact part.wordByte_combine_load segment hfits cpu.bus.ram _ hk

/-- The store of an end of a word in main memory succeeds. -/
theorem StoresEnd.stored (h : cpu.StoresEnd part rt (segment.address offset))
    (hshared : cpu.cop0.cacheIsolated = false) (hfits : offset + 4 ≤ ramSize) :
    cpu.EndStored part rt offset := by
  obtain ⟨word, base, immediate, hfetch, hword, haddress⟩ := h
  obtain ⟨haligns, hregion, hplace⟩ := address_place part segment hfits
  have hop : part.storeOp.merges = true ∧ part.storeOp.width = .word ∧
      part.storeOp.place (segment.address offset + part.distance) =
        segment.address (part.place offset) := by
    cases part <;> exact ⟨rfl, rfl, WordEnd.upperBits_address _ segment hfits⟩
  have hraise : cpu.exception? (.store part.storeOp rt base immediate) = none := by
    refine exception?_store ?_
    rw [haddress, hop.2.1, hop.2.2]
    exact haligns
  have hlanded : cpu.fetched.landPending.memoryAddress base immediate =
      segment.address offset + part.distance := haddress
  have hisolated : cpu.fetched.landPending.cop0.cacheIsolated = false := hshared
  have hstep := hfetch.step_of_perform (hword ▸ hraise)
  rw [hword, perform, performStore_eq, Bus.storeBy, StoreOp.value] at hstep
  simp only [hlanded, hisolated, hop.1, hop.2.1, hop.2.2, if_true, Bus.peek_of_ram haligns hregion,
    Except.map, Bool.false_eq_true, if_false, Bus.store_of_ram haligns hregion, hplace,
    fetched_ram] at hstep
  refine ⟨by rw [hstep]; rfl, by rw [hstep]; rfl, fun hi => ?_, by rw [hstep]; rfl,
    by rw [hstep]; rfl, by rw [hstep]; rfl, by rw [hstep]; rfl, by rw [hstep]; rfl⟩
  rw [hstep]
  exact part.get_store_combine segment hfits cpu.bus.ram _ hi

/-- With equal banks, what lands is written to the registers which were
visible. -/
theorem landPending_output (hbanks : cpu.output = cpu.visible) :
    cpu.landPending.output = cpu.landed := by
  rw [landed, ← hbanks]
  rfl

/-- Both ends together make up the word, since the second load is merged with
what the first has left on its way. -/
theorem EndLoaded.pending (hrt : rt ≠ 0) (hfirst : cpu.EndLoaded part rt offset)
    (hsecond : cpu.step.1.EndLoaded part.other rt offset) :
    cpu.step.1.step.1.pending = ⟨rt, cpu.bus.ram.load .word offset⟩ := by
  have hram : cpu.step.1.bus.ram = cpu.bus.ram := by
    rw [hfirst.bus, fetched_bus]
  have hlanded : cpu.step.1.landPending.output.get rt = cpu.step.1.pending.value := by
    rw [get_landPending, if_neg hrt, if_pos hfirst.target.symm]
  have hvalue : cpu.step.1.step.1.pending.value = cpu.bus.ram.load .word offset := by
    refine eq_of_wordByte fun k hk => ?_
    rw [hsecond.bytes hk, hram, hlanded, hfirst.bytes hk, wordByte_load _ _ hk]
    rcases part.covers_or_covers_other offset hk with hcovers | hcovers
    · rw [if_pos hcovers, ite_self]
    · rw [if_pos hcovers]
  rw [← hvalue, ← hsecond.target]

/-- The pair writes no register but the target, and what was on its way
before. -/
theorem EndLoaded.register_eq {register : Register} (hother : register ≠ rt)
    (hfirst : cpu.EndLoaded part rt offset)
    (hsecond : cpu.step.1.EndLoaded part.other rt offset) :
    cpu.step.1.step.1.register register = cpu.landPending.output.get register := by
  rw [Cpu.register, hsecond.visible, get_landPending, hfirst.target, if_neg hother, hfirst.output]
  split
  · next hzero => rw [get_landPending, if_pos hzero]
  · rfl

/-- A pair of stores writes no register but what was on its way before. -/
theorem EndStored.register_eq (hfirst : cpu.EndStored part rt offset)
    (hsecond : cpu.step.1.EndStored part.other rt offset) (register : Register) :
    cpu.step.1.step.1.register register = cpu.landPending.output.get register := by
  rw [Cpu.register, hsecond.visible, get_landPending, hfirst.pending, hfirst.output]
  split
  · next hzero => rw [get_landPending, if_pos hzero]
  · next hzero => exact if_neg hzero

/-- Both ends together store the word and nothing else. -/
theorem EndStored.get_ram {value : UInt32} (hvalue : cpu.register rt = value)
    (hkept : cpu.step.1.register rt = value) (hfirst : cpu.EndStored part rt offset)
    (hsecond : cpu.step.1.EndStored part.other rt offset) {i : Nat} (hi : i < ramSize) :
    cpu.step.1.step.1.bus.ram.get i =
      if offset ≤ i ∧ i < offset + 4 then wordByte value (i - offset)
      else cpu.bus.ram.get i := by
  rw [hsecond.bytes hi, hfirst.bytes hi, hvalue, hkept]
  by_cases hinside : offset ≤ i ∧ i < offset + 4
  · rw [if_pos hinside]
    simp only [hinside, true_and]
    rcases part.covers_or_covers_other offset (show i - offset < 4 by omega) with hcovers | hcovers
    · rw [if_pos hcovers, ite_self]
    · rw [if_pos hcovers]
  · rw [if_neg hinside, if_neg fun h => hinside ⟨h.1, h.2.1⟩,
      if_neg fun h => hinside ⟨h.1, h.2.1⟩]

/-- Two steps which load the low and the high end of a word, in either order, of
whatever alignment, from main memory into a register leave the word on its way
there. Neither the old value of the register nor what was on its way before makes
a difference, and the second of the two still sees the old value. Nothing else is
written to a register but what was on its way before, and main memory stays as
it is. -/
theorem loads_misaligned_word (hfits : offset + 4 ≤ ramSize) (hrt : rt ≠ 0)
    (hfirst : cpu.LoadsEnd part rt (segment.address offset))
    (hsecond : cpu.step.1.LoadsEnd part.other rt (segment.address offset)) :
    cpu.step.2 = none ∧ cpu.step.1.step.2 = none ∧
      cpu.step.1.step.1.pending = ⟨rt, cpu.bus.ram.load .word offset⟩ ∧
      (cpu.output = cpu.visible → cpu.step.1.visible = cpu.landed ∧
        ∀ register ≠ rt, cpu.step.1.step.1.register register = cpu.landed.get register) ∧
      cpu.step.1.step.1.bus.ram = cpu.bus.ram := by
  have hloaded := hfirst.loaded hfits
  have hloaded' := hsecond.loaded hfits
  refine ⟨hloaded.runs, hloaded'.runs, hloaded.pending hrt hloaded', fun hbanks => ?_, ?_⟩
  · rw [hloaded.visible, ← landPending_output hbanks]
    exact ⟨rfl, fun register hother => hloaded.register_eq hother hloaded'⟩
  · rw [hloaded'.bus, fetched_bus, hloaded.bus, fetched_bus]

/-- The low end of the word at address one is loaded first. The high end has the
target as its base, where a load of two lands between the two steps. -/
theorem loads_misaligned_word_through_target :
    let cpu : Cpu := { powerOn (.ofWords [0x98080001, 0x89080002]) with
      pending := ⟨8, 2⟩
      bus := { Bus.powerOn (.ofWords [0x98080001, 0x89080002]) with
        ram := Ram.powerOn.store .word 4 0x44332211 } }
    cpu.LoadsEnd .low 8 (Segment.user.address 1) ∧
      cpu.step.1.LoadsEnd .high 8 (Segment.user.address 1) ∧
      cpu.step.2 = none ∧ cpu.step.1.step.2 = none ∧
      cpu.step.1.step.1.pending = ⟨8, 0x11cacaca⟩ ∧ cpu.step.1.register 8 = 2 := by
  intro cpu
  have hlow : (InstructionWord.mk 0x98080001).decode = .load .lwr 8 0 1 := by decide
  have hhigh : (InstructionWord.mk 0x89080002).decode = .load .lwl 8 8 2 := by decide
  have hfits : 1 + 4 ≤ ramSize := by decide
  have hfirst : cpu.LoadsEnd .low 8 (Segment.user.address 1) :=
    ⟨_, _, _, fetches_ofWords (i := 0) rfl rfl (by decide) rfl, hlow, by decide⟩
  have hloaded := hfirst.loaded hfits
  have hshown : cpu.step.1.visible.get 8 = 2 := by
    rw [hloaded.visible, get_landPending]
    rfl
  have hrom : cpu.step.1.bus.bios = .ofWords [0x98080001, 0x89080002] := by
    rw [hloaded.bus, fetched_bus]
    rfl
  have hsecond : cpu.step.1.LoadsEnd .high 8 (Segment.user.address 1) := by
    refine ⟨_, _, _, fetches_ofWords (i := 1) hloaded.next hrom (by decide) rfl, hhigh, ?_⟩
    rw [memoryAddress, Cpu.register, hshown]
    decide
  obtain ⟨hruns, hruns', hpending, -, -⟩ :=
    loads_misaligned_word hfits (by decide) hfirst hsecond
  refine ⟨hfirst, hsecond, hruns, hruns', ?_, hshown⟩
  rw [hpending]
  have hword : (Ram.powerOn.store .word 4 0x44332211).load .word 1 = 0x11cacaca := by
    refine eq_of_wordByte fun k hk => ?_
    rw [wordByte_load _ _ hk, Bytes.get_store _ _ _ _ (by unfold ramSize; omega), Ram.powerOn,
      Bytes.get_filled (by unfold ramSize; omega)]
    obtain rfl | rfl | rfl | rfl : k = 0 ∨ k = 1 ∨ k = 2 ∨ k = 3 := by omega
    all_goals rfl
  exact congrArg (PendingLoad.mk 8) hword

/-- With the cache in use, two steps which store the low and the high end of a
register, in either order, as a word of whatever alignment in main memory put its
four bytes there, and leave every other byte of main memory. No register is
written but by what was on its way before. Two loads of the ends get the word
back. -/
theorem stores_misaligned_word {value : UInt32} (hfits : offset + 4 ≤ ramSize)
    (hshared : cpu.cop0.cacheIsolated = false)
    (hfirst : cpu.StoresEnd part rt (segment.address offset)) (hvalue : cpu.register rt = value)
    (hsecond : cpu.step.1.StoresEnd part.other rt (segment.address offset))
    (hkept : cpu.step.1.register rt = value) :
    cpu.step.2 = none ∧ cpu.step.1.step.2 = none ∧
      (∀ i < ramSize, cpu.step.1.step.1.bus.ram.get i =
        if offset ≤ i ∧ i < offset + 4 then wordByte value (i - offset)
        else cpu.bus.ram.get i) ∧
      cpu.step.1.step.1.pending = .none ∧
      (cpu.output = cpu.visible →
        ∀ register, cpu.step.1.step.1.register register = cpu.landed.get register) ∧
      ∀ (later : Cpu) (loaded : WordEnd) (target : Register) (shown : Segment),
        later.bus.ram = cpu.step.1.step.1.bus.ram → target ≠ 0 →
        later.LoadsEnd loaded target (shown.address offset) →
        later.step.1.LoadsEnd loaded.other target (shown.address offset) →
        later.step.2 = none ∧ later.step.1.step.2 = none ∧
          later.step.1.step.1.pending = ⟨target, value⟩ := by
  have hstored := hfirst.stored hshared hfits
  have hstored' := hsecond.stored (hstored.cop0 ▸ hshared) hfits
  have hram {i : Nat} (hi : i < ramSize) := hstored.get_ram hvalue hkept hstored' hi
  refine ⟨hstored.runs, hstored'.runs, fun i hi => hram hi, hstored'.pending, fun hbanks => ?_, ?_⟩
  · rw [← landPending_output hbanks]
    exact hstored.register_eq hstored'
  · intro later loaded target shown hlater htarget hload hload'
    have hloaded := hload.loaded hfits
    have hloaded' := hload'.loaded hfits
    have hword : later.bus.ram.load .word offset = value := by
      refine eq_of_wordByte fun k hk => ?_
      rw [wordByte_load _ _ hk, hlater, hram (by omega), if_pos (by omega), Nat.add_sub_cancel_left]
    refine ⟨hloaded.runs, hloaded'.runs, ?_⟩
    rw [hloaded.pending htarget hloaded', hword]

/-- A word is stored at address one, which leaves the bytes on both sides as they
were. -/
theorem stores_misaligned_word_one :
    let bank := (powerOn (.ofWord 0)).output.write 8 0x11223344
    let cpu : Cpu := { powerOn (.ofWords [0xb8080001, 0xa8080004]) with
      visible := bank
      output := bank }
    cpu.StoresEnd .low 8 (Segment.user.address 1) ∧
      cpu.step.1.StoresEnd .high 8 (Segment.user.address 1) ∧
      cpu.step.2 = none ∧ cpu.step.1.step.2 = none ∧
      (List.range 6).map cpu.step.1.step.1.bus.ram.get =
        [0xca, 0x44, 0x33, 0x22, 0x11, 0xca] := by
  intro bank cpu
  have hlow : (InstructionWord.mk 0xb8080001).decode = .store .swr 8 0 1 := by decide
  have hhigh : (InstructionWord.mk 0xa8080004).decode = .store .swl 8 0 4 := by decide
  have hfits : 1 + 4 ≤ ramSize := by decide
  have hfirst : cpu.StoresEnd .low 8 (Segment.user.address 1) :=
    ⟨_, _, _, fetches_ofWords (i := 0) rfl rfl (by decide) rfl, hlow, by decide⟩
  have hshared : cpu.cop0.cacheIsolated = false := by decide
  have hstored := hfirst.stored hshared hfits
  have hlanded : ∀ register, cpu.landPending.output.get register = bank.get register := by decide
  have hshown (register : Register) : cpu.step.1.register register = bank.get register := by
    rw [Cpu.register, hstored.visible]
    exact hlanded register
  have hrom : cpu.step.1.bus.bios = .ofWords [0xb8080001, 0xa8080004] := by
    rw [hstored.bus, fetched_bus]
    rfl
  have hsecond : cpu.step.1.StoresEnd .high 8 (Segment.user.address 1) := by
    refine ⟨_, _, _, fetches_ofWords (i := 1) hstored.next hrom (by decide) rfl, hhigh, ?_⟩
    rw [memoryAddress, hshown]
    decide
  obtain ⟨hruns, hruns', hbytes, -⟩ :=
    stores_misaligned_word hfits hshared hfirst rfl hsecond (hshown 8)
  refine ⟨hfirst, hsecond, hruns, hruns', ?_⟩
  have hram (i : Nat) (hi : i ∈ List.range 6) : cpu.step.1.step.1.bus.ram.get i =
      if 1 ≤ i ∧ i < 5 then wordByte 0x11223344 (i - 1) else 0xca := by
    have hi : i < ramSize := Nat.lt_of_lt_of_le (List.mem_range.mp hi) (by decide)
    rw [hbytes i hi]
    exact if_congr Iff.rfl rfl (Bytes.get_filled hi)
  rw [List.map_congr_left hram]
  decide

end Cpu

end Playstation
