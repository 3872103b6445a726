import Playstation.Proofs.Bus.Access
import Playstation.Proofs.Checked.Address
import Playstation.Proofs.Cpu.CommitLaw
import Playstation.Proofs.Segment

/-!
# Programs in the boot ROM

The boot ROM can hold any program as a list of instruction words. A fetch at
the address of one of them finds it and changes nothing. As long as a program
runs in order, all there is to know of the machine is the number of the next
instruction, the registers, the system coprocessor and the bus, and each step
executes the instruction of that number.
-/

namespace Playstation

namespace Cpu

/-- Address of instruction number `i` of a program. -/
def programAddress (i : Nat) : UInt32 := resetAddress + 4 * UInt32.ofNat i

/-- The addresses of a program count up from that of the first instruction. -/
theorem toNat_programAddress {i : Nat} (h : i < 0x20000) :
    (programAddress i).toNat = 0xbfc00000 + 4 * i := by
  have hreset : resetAddress.toNat = 0xbfc00000 := rfl
  have hfour : (4 : UInt32).toNat = 4 := rfl
  rw [programAddress, UInt32.toNat_add, UInt32.toNat_mul, UInt32.toNat_ofNat', hreset, hfour]
  omega

/-- The next instruction is four bytes further. -/
theorem programAddress_succ (i : Nat) : programAddress (i + 1) = programAddress i + 4 := by
  rw [programAddress, programAddress, UInt32.ofNat_add i 1, UInt32.mul_add, ← UInt32.add_assoc]
  rfl

/-- Instructions are aligned. -/
theorem aligns_programAddress {i : Nat} (h : i < 0x20000) :
    Width.word.aligns (programAddress i) = true := by
  rw [Width.aligns_iff, toNat_programAddress h, Width.bytes]
  omega

/-- The program is read through the last of the three segments which show
physical memory. -/
theorem toNat_physical_programAddress {i : Nat} (h : i < 0x20000) :
    (physical (programAddress i)).toNat = 0x1fc00000 + 4 * i := by
  rw [toNat_physical, toNat_programAddress h, if_neg (by omega), if_pos (by omega)]
  omega

/-- The program is in the boot ROM, from its start on. -/
theorem find?_programAddress {i : Nat} (h : i < 0x20000) :
    Region.find? (physical (programAddress i)) = some .bios ∧
      (Region.bios.offsetOf (physical (programAddress i))).toNat = 4 * i := by
  have hphysical := toNat_physical_programAddress h
  have hstart : (0x1fc00000 : UInt32) ≤ physical (programAddress i) := by
    rw [UInt32.le_iff_toNat_le, hphysical]
    change 0x1fc00000 ≤ 0x1fc00000 + 4 * i
    omega
  have hoffset : (physical (programAddress i) - 0x1fc00000).toNat = 4 * i := by
    rw [UInt32.toNat_sub_of_le _ _ hstart, hphysical]
    change 0x1fc00000 + 4 * i - 0x1fc00000 = 4 * i
    omega
  have hlength : physical (programAddress i) - 0x1fc00000 < 0x80000 := by
    rw [UInt32.lt_iff_toNat_lt, hoffset]
    change 4 * i < 0x80000
    omega
  have hcontains : Region.bios.range.contains (physical (programAddress i)) = true := by
    rw [AddressRange.contains, Bool.and_eq_true, decide_eq_true_eq, decide_eq_true_eq]
    exact ⟨hstart, hlength⟩
  exact ⟨List.find?_cons_of_pos hcontains, hoffset⟩

section Fetch

variable {cpu : Cpu} {words : List UInt32} {word : UInt32} {i : Nat}

/-- The fetch of an instruction of the program finds it and changes nothing. -/
theorem load_programAddress {bus : Bus} (hbios : bus.bios = .ofWords words)
    (hsize : words.length ≤ 0x20000) (hword : words[i]? = some word) :
    bus.load .word (programAddress i) = (bus, .ok word) := by
  obtain ⟨hlength, -⟩ := List.getElem?_eq_some_iff.mp hword
  have hi : i < 0x20000 := by omega
  obtain ⟨hregion, hoffset⟩ := find?_programAddress hi
  have hsize' : 0 + 4 * words.length ≤ biosSize := by
    unfold biosSize
    omega
  have hread : (Bios.ofWords words).image.load .word (4 * i) = word := by
    rw [← Nat.zero_add (4 * i)]
    exact Bytes.load_storeWords _ hsize' hword
  have hbus : bus.notice .word (programAddress i) = bus :=
    Bus.notice_of_region hregion (by decide)
  rw [Bus.load, hbus, Bus.peek_of_region (aligns_programAddress hi) hregion]
  simp only [Bus.peekRegion, hoffset, hbios, hread]

/-- Where the program counter names an instruction of the program, it is
fetched. -/
theorem fetches_ofWords (hpc : cpu.pc = programAddress i) (hbios : cpu.bus.bios = .ofWords words)
    (hsize : words.length ≤ 0x20000) (hword : words[i]? = some word) : cpu.Fetches ⟨word⟩ := by
  obtain ⟨hlength, -⟩ := List.getElem?_eq_some_iff.mp hword
  refine ⟨?_, ?_⟩
  · rw [hpc]
    exact aligns_programAddress (by omega)
  · rw [hpc, load_programAddress hbios hsize hword]

end Fetch

end Cpu

/-- The machine before instruction number `i` of a program which has run in
order so far and has not used the result words, with no load on its way. -/
def OneBank.inOrder (i : Nat) (registers : RegisterBank) (cop0 : Cop0) (bus : Bus) : OneBank where
  currentPc := Cpu.programAddress (i - 1)
  pc := Cpu.programAddress i
  nextPc := Cpu.programAddress (i + 1)
  inDelaySlot := false
  branching := false
  hi := 0
  lo := 0
  registers := registers
  pending := .none
  cop0 := cop0
  bus := bus

/-- A step in order executes the next instruction of the program. -/
theorem OneBank.step_inOrder {words : List UInt32} {word : UInt32} {i : Nat}
    {registers : RegisterBank} {cop0 : Cop0} {bus : Bus} (hbios : bus.bios = .ofWords words)
    (hsize : words.length ≤ 0x20000) (hword : words[i]? = some word) :
    (inOrder i registers cop0 bus).step =
      (inOrder (i + 1) registers cop0 bus).execute (InstructionWord.mk word).decode := by
  obtain ⟨hlength, -⟩ := List.getElem?_eq_some_iff.mp hword
  have hpc : (inOrder i registers cop0 bus).pc = Cpu.programAddress i := rfl
  have hbus : (inOrder i registers cop0 bus).bus = bus := rfl
  rw [step]
  simp only [hpc, hbus, Cpu.aligns_programAddress (show i < 0x20000 by omega), if_true,
    Cpu.load_programAddress hbios hsize hword]
  rw [inOrder, inOrder, Cpu.programAddress_succ (i + 1)]
  rfl

/-- A step in order which loads an upper immediate writes a register. -/
theorem OneBank.step_lui {words : List UInt32} {word : UInt32} {i : Nat} {rt : Register}
    {value : UInt32} {registers : RegisterBank} {cop0 : Cop0} {bus : Bus}
    (hbios : bus.bios = .ofWords words) (hsize : words.length ≤ 0x20000)
    (hword : words[i]? = some word) (hdecode : (InstructionWord.mk word).decode = .lui rt value) :
    (inOrder i registers cop0 bus).step.1 =
      inOrder (i + 1) ((registers.write 0 0).write rt (value <<< 16)) cop0 bus := by
  rw [step_inOrder hbios hsize hword, hdecode]
  rfl

/-- A step in order which stores a word does so on the bus. -/
theorem OneBank.step_sw {words : List UInt32} {word : UInt32} {i : Nat} {rt base : Register}
    {offset : UInt32} {registers : RegisterBank} {cop0 : Cop0} {bus : Bus}
    (hbios : bus.bios = .ofWords words) (hsize : words.length ≤ 0x20000)
    (hword : words[i]? = some word)
    (hdecode : (InstructionWord.mk word).decode = .store .sw rt base offset)
    (hshared : cop0.cacheIsolated = false)
    (haligns : Width.word.aligns (registers.get base + offset) = true) :
    (inOrder i registers cop0 bus).step.1 =
      inOrder (i + 1) (registers.write 0 0) cop0
        (bus.store .word (registers.get base + offset) (registers.get rt)).1 := by
  have hregisters (i : Nat) : (inOrder i registers cop0 bus).registers = registers := rfl
  have hexception : (inOrder (i + 1) registers cop0 bus).exception? (.store .sw rt base offset) =
      none := if_pos haligns
  have hstore : (inOrder (i + 1) registers cop0 bus).effect (.store .sw rt base offset) =
      (inOrder (i + 1) registers cop0 bus).storeValue .word (registers.get base + offset)
        (registers.get rt) := rfl
  have hisolated : ¬(inOrder (i + 1) registers cop0 bus).cop0.cacheIsolated = true :=
    Bool.not_eq_true _ ▸ hshared
  rw [step_inOrder hbios hsize hword, hdecode, execute]
  simp only [hexception, hstore, storeValue, if_neg hisolated]
  rfl

namespace Cpu

/-- The processor some number of steps after power on, whether or not some of
them ended in a host fault. -/
def after (bios : Bios) (steps : Nat) : Cpu := (fun cpu => cpu.step.1)^[steps] (powerOn bios)

/-- One more step. -/
theorem after_succ (bios : Bios) (steps : Nat) :
    after bios (steps + 1) = (after bios steps).step.1 :=
  Function.iterate_succ_apply' _ _ _

/-- Any number of steps can be made. -/
theorem reachable_after (bios : Bios) (steps : Nat) : Reachable bios (after bios steps) := by
  induction steps with
  | zero => exact .powerOn
  | succ steps ih =>
    rw [after_succ]
    exact .step ih

/-- Steps from power on are steps on one bank. -/
theorem oneBank_after_succ (bios : Bios) (steps : Nat) :
    (after bios (steps + 1)).oneBank = (after bios steps).oneBank.step.1 := by
  rw [after_succ]
  exact congrArg Prod.fst (step_oneBank (reachable_after bios steps).banks.1)

/-- At power on a program is about to begin. -/
theorem oneBank_after_zero (bios : Bios) :
    (after bios 0).oneBank = .inOrder 0 (Vector.replicate 32 0) .powerOn (.powerOn bios) := rfl

section UpperHalves

variable {bios : Bios} {first second last upper upper' : UInt32}

/-- A program which begins by setting the upper halves of registers 8 and 9 runs in order up
to its third instruction. -/
theorem oneBank_after_lui (hbios : bios = .ofWords [first, second, last])
    (hfirst : (InstructionWord.mk first).decode = .lui 8 upper)
    (hsecond : (InstructionWord.mk second).decode = .lui 9 upper') :
    (after bios 2).oneBank = .inOrder 2
      ((RegisterBank.write ((RegisterBank.write (Vector.replicate 32 0) 0 0).write 8 (upper <<< 16))
        0 0).write 9 (upper' <<< 16)) .powerOn (.powerOn bios) := by
  rw [oneBank_after_succ, oneBank_after_succ, oneBank_after_zero,
    OneBank.step_lui hbios (by simp) rfl hfirst, OneBank.step_lui hbios (by simp) rfl hsecond]

/-- The third instruction is fetched with the two registers set and no load on its way. -/
theorem fetches_after_lui (hbios : bios = .ofWords [first, second, last])
    (hfirst : (InstructionWord.mk first).decode = .lui 8 upper)
    (hsecond : (InstructionWord.mk second).decode = .lui 9 upper') :
    (after bios 2).Fetches ⟨last⟩ ∧ (after bios 2).register 8 = upper <<< 16 ∧
      (after bios 2).register 9 = upper' <<< 16 ∧ (after bios 2).pending = .none := by
  have hmachine := oneBank_after_lui hbios hfirst hsecond
  have hpc : (after bios 2).pc = programAddress 2 := congrArg OneBank.pc hmachine
  have hrom : (after bios 2).bus.bios = bios :=
    congrArg (fun machine => machine.bus.bios) hmachine
  have hregisters := congrArg OneBank.registers hmachine
  refine ⟨fetches_ofWords hpc (hrom.trans hbios) (by simp) rfl, ?_, ?_,
    congrArg OneBank.pending hmachine⟩
  · refine (congrArg (·.get 8) hregisters).trans ?_
    simp only [OneBank.inOrder, RegisterBank.get_write]
    rfl
  · refine (congrArg (·.get 9) hregisters).trans ?_
    simp only [OneBank.inOrder, RegisterBank.get_write]
    rfl

end UpperHalves

end Cpu

end Playstation
