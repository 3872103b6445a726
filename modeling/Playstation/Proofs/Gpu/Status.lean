import Playstation.Proofs.Gpu.Registers

/-!
# The status register

Commands at the drawing port, the display commands and no command at all have
each their own bits of the status register. What a command does to the rest of
the registers does not depend on it. So the fixed bits stay as a reset leaves
them, the status register is the one which the settings say, and the registers
show what the settings are after every sequence of operations.
-/

namespace Playstation

open MachineWord

namespace GpuRegisters

variable {registers : GpuRegisters} {word : UInt32}

/-- The bits of the status register which commands at the drawing port replace. -/
def drawBits : UInt32 := 0x01009fff

/-- The bits of the status register which the display commands replace. -/
def displayBits : UInt32 := 0x60ff4000

/-- The bits of the status register which stay as a reset leaves them. -/
def fixedBits : UInt32 := 0x9e002000

/-- The registers with another status register and another screen. -/
def withDisplay (registers : GpuRegisters) (status : UInt32) (screen : Screen) : GpuRegisters :=
  { registers with status, screen }

/-- Starting a command replaces its own bits of the status register. What it
does does not depend on the status register or the screen. -/
theorem start_frame (registers : GpuRegisters) (word : UInt32) :
    ∃ f, Puts drawBits f ∧ ∀ status screen,
      (registers.withDisplay status screen).start word =
        (registers.start word).withDisplay (f status) screen := by
  let first := (registers.buffer.clear.push word).word 0
  cases hstart : Gp0Start.ofWord word with
  | requestInterrupt =>
    refine ⟨fun status => setBit status 24 true, Puts.setBit true (by decide) (by decide), ?_⟩
    intro status screen
    simp only [start, hstart, startBuffered, withDisplay]
  | drawMode =>
    have hmode : Puts drawBits fun status => setBits status 0 10 (bits first 0 10) :=
      Puts.setBits _ (by decide) (by decide) (by decide)
    have hdisabled : Puts drawBits fun status => setBit status 15 (bit first 11) :=
      Puts.setBit _ (by decide) (by decide)
    refine ⟨_, hdisabled.comp hmode, ?_⟩
    intro status screen
    simp only [start, hstart, startBuffered, withDisplay, first]
  | maskBits =>
    refine ⟨fun status => setBits status 11 12 (bits first 0 1),
      Puts.setBits _ (by decide) (by decide) (by decide), ?_⟩
    intro status screen
    simp only [start, hstart, startBuffered, withDisplay, first]
  | _ =>
    refine ⟨fun status => status, Puts.id _, ?_⟩
    intro status screen
    simp only [start, hstart, startBuffered, withDisplay]

/-- The same is true of every word at the drawing port. -/
theorem gp0_frame (registers : GpuRegisters) (word : UInt32) :
    ∃ f, Puts drawBits f ∧ ∀ status screen,
      (registers.withDisplay status screen).gp0 word =
        (registers.gp0 word).withDisplay (f status) screen := by
  have hkept (status : UInt32) (screen : Screen) :
      (registers.withDisplay status screen).phase = registers.phase := rfl
  -- Only a word that starts a command reaches the status register.
  cases hphase : registers.phase with
  | idle | loading =>
    obtain ⟨f, hf, hstart⟩ := start_frame registers word
    refine ⟨f, hf, ?_⟩
    intro status screen
    rw [gp0, gp0, hkept, hphase]
    exact hstart status screen
  | collecting command remaining =>
    refine ⟨fun status => status, Puts.id _, ?_⟩
    intro status screen
    rw [gp0, gp0, hkept, hphase]
    simp only
    split
    · rfl
    · cases command <;> rfl
  | polyLine =>
    refine ⟨fun status => status, Puts.id _, ?_⟩
    intro status screen
    rw [gp0, gp0, hkept, hphase]
    simp only
    split <;> rfl
  | storing image done =>
    refine ⟨fun status => status, Puts.id _, ?_⟩
    intro status screen
    rw [gp0, gp0, hkept, hphase]
    rfl

/-- A read leaves the status register and the screen, and does not depend on
them. -/
theorem read_frame (registers : GpuRegisters) (status : UInt32) (screen : Screen) :
    (registers.withDisplay status screen).read = registers.read.withDisplay status screen := by
  have hkept : (registers.withDisplay status screen).phase = registers.phase := rfl
  rw [read, read, hkept]
  cases registers.phase <;> rfl

/-- A display command replaces its own bits of the status register, and what is
on the screen. -/
theorem gp1_display (hlow : 3 ≤ (topByte word).toNat) (hhigh : (topByte word).toNat ≤ 8) :
    ∃ (f : UInt32 → UInt32) (g : Screen → Screen), Puts displayBits f ∧
      ∀ registers : GpuRegisters, registers.gp1 word =
        registers.withDisplay (f registers.status) (g registers.screen) := by
  have hopcode : (topByte word).toNat = 3 ∨ (topByte word).toNat = 4 ∨ (topByte word).toNat = 5 ∨
      (topByte word).toNat = 6 ∨ (topByte word).toNat = 7 ∨ (topByte word).toNat = 8 := by
    omega
  rcases hopcode with h | h | h | h | h | h
  · refine ⟨fun status => setBit status 23 (bit word 0), fun screen => screen,
      Puts.setBit _ (by decide) (by decide), fun registers => ?_⟩
    simp only [gp1, h, withDisplay]
  · refine ⟨fun status => setBits status 29 30 (bits word 0 1), fun screen => screen,
      Puts.setBits _ (by decide) (by decide) (by decide), fun registers => ?_⟩
    simp only [gp1, h, withDisplay]
  · refine ⟨fun status => status,
      fun screen => { screen with startX := bits word 0 9, startY := bits word 10 18 },
      Puts.id _, fun registers => ?_⟩
    simp only [gp1, h, withDisplay]
  · refine ⟨fun status => status,
      fun screen => { screen with horizontal := (bits word 0 11, bits word 12 23) },
      Puts.id _, fun registers => ?_⟩
    simp only [gp1, h, withDisplay]
  · refine ⟨fun status => status,
      fun screen => { screen with vertical := (bits word 0 9, bits word 10 19) },
      Puts.id _, fun registers => ?_⟩
    simp only [gp1, h, withDisplay]
  · have hfields : Puts displayBits fun status => setBits status 17 22 (bits word 0 5) :=
      Puts.setBits _ (by decide) (by decide) (by decide)
    have hsixth : Puts displayBits fun status => setBit status 16 (bit word 6) :=
      Puts.setBit _ (by decide) (by decide)
    have hseventh : Puts displayBits fun status => setBit status 14 (bit word 7) :=
      Puts.setBit _ (by decide) (by decide)
    refine ⟨_, fun screen => screen, hseventh.comp (hsixth.comp hfields), fun registers => ?_⟩
    simp only [gp1, h, withDisplay]

/-- A word at the control port resets the status register, or replaces bits
which are not fixed. -/
theorem status_gp1 (registers : GpuRegisters) (word : UInt32) :
    (registers.gp1 word).status = 0x14802000 ∨
      (registers.gp1 word).status &&& fixedBits = registers.status &&& fixedBits := by
  by_cases hdisplay : 3 ≤ (topByte word).toNat ∧ (topByte word).toNat ≤ 8
  · obtain ⟨f, g, hf, hgp1⟩ := gp1_display hdisplay.1 hdisplay.2
    rw [hgp1]
    exact .inr (hf.and_of_disjoint (by decide) _)
  · have hasks (question : UInt32) : (registers.ask question).status = registers.status := by
      rw [ask]
      split <;> rfl
    have hacknowledge : Puts drawBits fun status => setBit status 24 false :=
      Puts.setBit _ (by decide) (by decide)
    rw [gp1]
    split
    case h_1 => exact .inl rfl
    case h_2 => exact .inr rfl
    case h_3 => exact .inr (hacknowledge.and_of_disjoint (by decide) _)
    case h_10 =>
      refine .inr ?_
      split
      · rw [hasks]
      · rfl
    all_goals omega

/-- What holds of the registers at all times. -/
structure Valid (registers : GpuRegisters) : Prop where
  /-- The fixed bits are as a reset leaves them. -/
  fixed : registers.status &&& fixedBits = 0x14002000
  /-- The phase is valid. -/
  phase : registers.shown.phase.Valid

/-- The registers are valid after a reset. -/
theorem valid_reset (registers : GpuRegisters) : registers.reset.Valid := by
  have hfixed : (0x14802000 : UInt32) &&& fixedBits = 0x14002000 := by decide
  exact ⟨hfixed, trivial⟩

/-- The registers are valid at power on. -/
theorem valid_powerOn : powerOn.Valid := valid_reset _

/-- The registers show what an operation does. -/
theorem shown_perform (h : registers.Valid) (operation : Gpu.Operation) :
    (registers.perform operation).shown = registers.shown.perform operation := by
  cases operation with
  | gp0 word => exact shown_gp0 h.phase
  | gp1 word => exact shown_gp1
  | read => exact shown_read

/-- No operation changes a fixed bit. -/
theorem fixed_perform (h : registers.status &&& fixedBits = 0x14002000)
    (operation : Gpu.Operation) :
    (registers.perform operation).status &&& fixedBits = 0x14002000 := by
  have hself : registers.withDisplay registers.status registers.screen = registers := rfl
  cases operation with
  | gp0 word =>
    obtain ⟨f, hf, hgp0⟩ := gp0_frame registers word
    have hstatus := congrArg status (hgp0 registers.status registers.screen)
    rw [hself] at hstatus
    rw [perform, hstatus]
    exact (hf.and_of_disjoint (by decide) _).trans h
  | gp1 word =>
    rw [perform]
    rcases status_gp1 registers word with hreset | hkept
    · rw [hreset]
      decide
    · rw [hkept, h]
  | read =>
    have hstatus := congrArg status (read_frame registers registers.status registers.screen)
    rw [hself] at hstatus
    rw [perform, hstatus]
    exact h

/-- The registers are valid after an operation. -/
theorem Valid.perform (h : registers.Valid) (operation : Gpu.Operation) :
    (registers.perform operation).Valid := by
  refine ⟨fixed_perform h.fixed operation, ?_⟩
  rw [shown_perform h]
  exact Gpu.perform_valid h.phase operation

/-- The registers are valid after every sequence of operations. -/
theorem Valid.performAll (h : registers.Valid) (operations : List Gpu.Operation) :
    (registers.performAll operations).Valid := by
  induction operations generalizing registers with
  | nil => exact h
  | cons operation operations ih => exact ih (h.perform operation)

/-- The registers show what the settings are after every sequence of
operations. -/
theorem shown_performAll (h : registers.Valid) (operations : List Gpu.Operation) :
    (registers.performAll operations).shown = registers.shown.performAll operations := by
  induction operations generalizing registers with
  | nil => rfl
  | cons operation operations ih =>
    have hrest := ih (h.perform operation)
    rw [shown_perform h] at hrest
    exact hrest

/-- The registers show what the settings are after every sequence of operations
from power on. -/
theorem shown_performAll_powerOn (operations : List Gpu.Operation) :
    (powerOn.performAll operations).shown = Gpu.powerOn.performAll operations := by
  rw [shown_performAll valid_powerOn, shown_powerOn]

/-- The registers return what is read. -/
theorem shown_readings (h : registers.Valid) (operations : List Gpu.Operation) :
    registers.shown.readings operations = registers.readings operations := by
  induction operations generalizing registers with
  | nil => rfl
  | cons operation operations ih =>
    have hrest := ih (h.perform operation)
    rw [shown_perform h] at hrest
    have hlatch : (registers.shown.perform operation).latch =
        (registers.perform operation).latch := by
      rw [← shown_perform h]
      rfl
    rw [readings, Gpu.readings, hrest, hlatch]

/-- A direction has the number which it is read from. -/
theorem number_ofNumber (word : UInt32) {low : Nat} (hlow : low + 1 < 32) :
    (GpuDmaDirection.ofNumber (bits word low (low + 1))).number = bits word low (low + 1) := by
  have hbound : (bits word low (low + 1)).toNat < 2 ^ (low + 1 - low + 1) :=
    toNat_bits_lt (Nat.le_succ low) hlow
  have hlength : low + 1 - low + 1 = 2 := by omega
  rw [hlength] at hbound
  generalize bits word low (low + 1) = number at hbound
  have hnumber : number = 0 ∨ number = 1 ∨ number = 2 ∨ number = 3 := by
    simp only [← UInt32.toNat_inj]
    change number.toNat = 0 ∨ number.toNat = 1 ∨ number.toNat = 2 ∨ number.toNat = 3
    omega
  rcases hnumber with rfl | rfl | rfl | rfl <;> rfl

/-- The status register is the one which the settings say. -/
theorem shown_statusRegister (h : registers.status &&& fixedBits = 0x14002000) :
    registers.shown.statusRegister = registers.status := by
  have hmode : registers.shown.draw.mode = bits registers.status 0 10 := rfl
  have hmask : registers.shown.draw.mask = bits registers.status 11 12 := rfl
  have hdisabled : registers.shown.draw.textureDisabled = bit registers.status 15 := rfl
  have hfields : bits registers.shown.display.mode 0 5 = bits registers.status 17 22 := by
    simp [shown, display, displayMode]
  have hsixth : bit registers.shown.display.mode 6 = bit registers.status 16 := by
    simp [shown, display, displayMode]
  have hseventh : bit registers.shown.display.mode 7 = bit registers.status 14 := by
    simp [shown, display, displayMode]
  have hdark : registers.shown.display.disabled = bit registers.status 23 := rfl
  have hinterrupt : registers.shown.interrupt = bit registers.status 24 := rfl
  have hdirection : registers.shown.display.dmaDirection.number = bits registers.status 29 30 :=
    @number_ofNumber _ 29 (by decide)
  have hfixed (i : Nat) (hi : (toBits fixedBits).getLsbD i = true) :
      (toBits (0x14002000 : UInt32)).getLsbD i = (toBits registers.status).getLsbD i := by
    rw [← h, getLsbD_and, hi, Bool.and_true]
  rw [Gpu.statusRegister, hmode, hmask, hdisabled, hfields, hsixth, hseventh, hdark, hinterrupt,
    hdirection]
  refine eq_of_getLsbD_eq fun i hi => ?_
  rw [getLsbD_setBits_bits (by decide) (by decide), getLsbD_setBit_bit (by decide),
    getLsbD_setBit_bit (by decide), getLsbD_setBits_bits (by decide) (by decide),
    getLsbD_setBit_bit (by decide), getLsbD_setBit_bit (by decide), getLsbD_setBit_bit (by decide),
    getLsbD_setBits_bits (by decide) (by decide), getLsbD_setBits_bits (by decide) (by decide)]
  -- Every bit is copied from the status register or fixed.
  split_ifs
  case neg =>
    have hi : i < 32 := hi
    have hrest : i = 13 ∨ i = 25 ∨ i = 26 ∨ i = 27 ∨ i = 28 ∨ i = 31 := by omega
    rcases hrest with rfl | rfl | rfl | rfl | rfl | rfl <;> exact hfixed _ (by decide)
  all_goals rfl

/-- Three ready bits are set one by one or as a field. -/
theorem setBits_ready (status : UInt32) :
    setBits status 26 28 7 = setBit (setBit (setBit status 26 true) 27 true) 28 true := by
  refine eq_of_getLsbD_eq fun i _ => ?_
  rw [getLsbD_setBits _ _ (by decide) (by decide), getLsbD_setBit _ (by decide),
    getLsbD_setBit _ (by decide), getLsbD_setBit _ (by decide)]
  by_cases hready : 26 ≤ i ∧ i ≤ 28
  · have hplace : i = 26 ∨ i = 27 ∨ i = 28 := by omega
    rcases hplace with rfl | rfl | rfl <;> rfl
  · rw [if_neg hready, if_neg (by omega), if_neg (by omega), if_neg (by omega)]

/-- The status reads as the settings say. -/
theorem shown_status (h : registers.status &&& fixedBits = 0x14002000) :
    registers.shown.status = registers.readStatus := by
  have hdirection : registers.shown.display.dmaDirection =
      GpuDmaDirection.ofNumber (bits registers.status 29 30) := rfl
  rw [Gpu.status, readStatus, shown_statusRegister h, setBits_ready, hdirection]
  cases GpuDmaDirection.ofNumber (bits registers.status 29 30) with
  | off | fifo => rfl
  | cpuToGp0 => exact congrArg (setBit _ 25) (bit_setBit (by decide)).symm
  | vramToCpu =>
    have hblock : bit (setBit (setBit (setBit registers.status 26 true) 27 true) 28 true) 27 =
        true := by
      simp
    exact congrArg (setBit _ 25) hblock.symm

/-- The drawing port waits as the phase says. -/
theorem shown_isIdle : registers.shown.isIdle = registers.isIdle := by
  rw [Gpu.isIdle, isIdle, shown_phase]
  cases registers.phase <;> rfl

end GpuRegisters

end Playstation
