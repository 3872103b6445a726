import Mathlib.Data.List.DropRight
import Playstation.Proofs.Gpu.Framing
import Playstation.Proofs.Gpu.Status

/-!
# What the status tells of the past

Eight commands make a difference to the status, and each of them is a command
only where a word is taken for one: at the control port always, and at the
drawing port if the word finds the port waiting. The main statement is that
after any sequence of operations the fields of the status are those of the last
command of their kind since the last reset, and that nothing else makes a
difference to it.
-/

namespace Playstation

open MachineWord

/-- The commands which make a difference to the status. -/
inductive StatusCommand where
  /-- Reset everything but video memory and the latch. -/
  | reset
  /-- Clear the interrupt flag. -/
  | acknowledge
  /-- Raise the interrupt flag. -/
  | requestInterrupt
  /-- Set the draw mode. -/
  | drawMode
  /-- Set the mask bits. -/
  | maskBits
  /-- Make the screen dark or not. -/
  | displayEnable
  /-- Set the direction of DMA. -/
  | dmaDirection
  /-- Set the display mode. -/
  | displayMode
  deriving DecidableEq

namespace StatusCommand

/-- The command which a word selects at the drawing port. -/
def ofDrawWord? (word : UInt32) : Option StatusCommand :=
  match (topByte word).toNat with
  | 0x1f => some requestInterrupt
  | 0xe1 => some drawMode
  | 0xe6 => some maskBits
  | _ => none

/-- The command which a word selects at the control port. -/
def ofControlWord? (word : UInt32) : Option StatusCommand :=
  match (topByte word).toNat with
  | 0x00 => some reset
  | 0x02 => some acknowledge
  | 0x03 => some displayEnable
  | 0x04 => some dmaDirection
  | 0x08 => some displayMode
  | _ => none

/-- The three commands are what their words start. -/
theorem ofDrawWord?_eq (word : UInt32) :
    ofDrawWord? word =
      match Gp0Start.ofWord word with
      | .requestInterrupt => some requestInterrupt
      | .drawMode => some drawMode
      | .maskBits => some maskBits
      | _ => none := by
  rw [ofDrawWord?, Gp0Start.ofWord]
  simp only [UInt32.lt_iff_toNat_lt]
  generalize (topByte word).toNat = opcode
  split
  case h_4 hinterrupt hmode hmask =>
    -- No branch for another top byte starts one of the three.
    split
    case h_1 hstart | h_2 hstart | h_3 hstart =>
      repeat' split at hstart
      all_goals contradiction
    case h_4 => rfl
  all_goals rfl

end StatusCommand

/-- A command with the word which has selected it. -/
structure StatusEntry where
  /-- The command. -/
  command : StatusCommand
  /-- The word. -/
  word : UInt32
  deriving DecidableEq

namespace StatusEntry

/-- What has been executed since the last reset. -/
def sinceReset (history : List StatusEntry) : List StatusEntry :=
  history.rtakeWhile fun entry => entry.command != .reset

/-- The word of the last command of a kind since the last reset, if there is
one. -/
def lastWord? (command : StatusCommand) (history : List StatusEntry) : Option UInt32 :=
  ((sinceReset history).filter fun entry => entry.command = command).getLast?.map word

/-- The same, where zero stands for a command that is missing. -/
def lastWord (command : StatusCommand) (history : List StatusEntry) : UInt32 :=
  (lastWord? command history).getD 0

/-- Whether an interrupt has been asked for since the last reset and not been
acknowledged. -/
def interruptPending (history : List StatusEntry) : Bool :=
  ((sinceReset history).rtakeWhile fun entry => entry.command != .acknowledge).any
    fun entry => entry.command = .requestInterrupt

variable (history : List StatusEntry) (entry : StatusEntry) (command : StatusCommand)

/-- A reset is followed by nothing, and everything else by itself. -/
theorem sinceReset_concat :
    sinceReset (history ++ [entry]) =
      if entry.command = .reset then [] else sinceReset history ++ [entry] := by
  rw [sinceReset, List.rtakeWhile_concat]
  by_cases hreset : entry.command = .reset
  · rw [if_pos hreset, if_neg (by rw [hreset]; decide)]
  · rw [if_neg hreset, if_pos (bne_iff_ne.mpr hreset)]
    rfl

/-- A command is the last one of its kind, and leaves those of other kinds. -/
theorem lastWord?_concat :
    lastWord? command (history ++ [entry]) =
      if entry.command = .reset then none
      else if entry.command = command then some entry.word else lastWord? command history := by
  rw [lastWord?, sinceReset_concat]
  by_cases hreset : entry.command = .reset
  · rw [if_pos hreset, if_pos hreset]
    rfl
  · rw [if_neg hreset, if_neg hreset, List.filter_append]
    by_cases hsame : entry.command = command
    · have hkept : [entry].filter (fun entry => entry.command = command) = [entry] :=
        List.filter_cons_of_pos (decide_eq_true hsame)
      rw [if_pos hsame, hkept, List.getLast?_concat]
      rfl
    · have hnone : [entry].filter (fun entry => entry.command = command) = [] :=
        List.filter_cons_of_neg (by rw [decide_eq_true_eq]; exact hsame)
      rw [if_neg hsame, hnone, List.append_nil]
      rfl

/-- An interrupt is pending from the request until it is acknowledged or the
processor is reset. -/
theorem interruptPending_concat :
    interruptPending (history ++ [entry]) =
      match entry.command with
      | .reset | .acknowledge => false
      | .requestInterrupt => true
      | _ => interruptPending history := by
  rw [interruptPending, sinceReset_concat]
  by_cases hreset : entry.command = .reset
  · rw [if_pos hreset, hreset]
    rfl
  · rw [if_neg hreset, List.rtakeWhile_concat]
    by_cases hacknowledge : entry.command = .acknowledge
    · rw [if_neg (by rw [hacknowledge]; decide), hacknowledge]
      rfl
    · rw [if_pos (bne_iff_ne.mpr hacknowledge), List.any_append]
      cases hcommand : entry.command with
      | reset => exact absurd hcommand hreset
      | acknowledge => exact absurd hcommand hacknowledge
      | requestInterrupt => simp [hcommand]
      | _ => simp [hcommand, interruptPending]

end StatusEntry

/-- The settings which the status shows. -/
structure ShownSettings where
  /-- The draw mode. -/
  mode : UInt32
  /-- Whether textures are ignored. -/
  textureDisabled : Bool
  /-- The mask bits. -/
  mask : UInt32
  /-- The display mode. -/
  displayMode : UInt32
  /-- Whether the screen is dark. -/
  dark : Bool
  /-- The direction of DMA. -/
  direction : GpuDmaDirection
  /-- Whether a command has asked for an interrupt. -/
  interrupt : Bool

namespace ShownSettings

/-- The settings after a command. -/
def after (settings : ShownSettings) (entry : StatusEntry) : ShownSettings :=
  match entry.command with
  | .reset => ⟨0, false, 0, 0, true, .off, false⟩
  | .acknowledge => { settings with interrupt := false }
  | .requestInterrupt => { settings with interrupt := true }
  | .drawMode =>
    { settings with mode := bits entry.word 0 10, textureDisabled := bit entry.word 11 }
  | .maskBits => { settings with mask := bits entry.word 0 1 }
  | .displayEnable => { settings with dark := bit entry.word 0 }
  | .dmaDirection =>
    { settings with direction := GpuDmaDirection.ofNumber (bits entry.word 0 1) }
  | .displayMode => { settings with displayMode := bits entry.word 0 7 }

open StatusEntry in
/-- The settings which the last commands of each kind have left. The screen is
dark until it is switched on. -/
def ofHistory (history : List StatusEntry) : ShownSettings where
  mode := bits (lastWord .drawMode history) 0 10
  textureDisabled := bit (lastWord .drawMode history) 11
  mask := bits (lastWord .maskBits history) 0 1
  displayMode := bits (lastWord .displayMode history) 0 7
  dark := (lastWord? .displayEnable history).elim true fun word => bit word 0
  direction := GpuDmaDirection.ofNumber (bits (lastWord .dmaDirection history) 0 1)
  interrupt := interruptPending history

/-- One more command changes what the last ones have left. -/
theorem ofHistory_concat (history : List StatusEntry) (entry : StatusEntry) :
    ofHistory (history ++ [entry]) = (ofHistory history).after entry := by
  rw [ofHistory, after]
  simp only [StatusEntry.lastWord, StatusEntry.lastWord?_concat,
    StatusEntry.interruptPending_concat]
  have hmode : bits (0 : UInt32) 0 10 = 0 := by decide
  have hmask : bits (0 : UInt32) 0 1 = 0 := by decide
  have hdisplay : bits (0 : UInt32) 0 7 = 0 := by decide
  have htextures : bit (0 : UInt32) 11 = false := by decide
  cases hcommand : entry.command with
  | reset =>
    simp only [if_true, Option.getD_none, Option.elim_none, hmode, hmask, hdisplay, htextures]
    rfl
  | _ => simp [ofHistory, StatusEntry.lastWord]

end ShownSettings

namespace Gpu

/-- The command for the status which an operation executes, if it does. A word
at the drawing port is one only if it finds the port waiting. -/
def statusCommand? (gpu : Gpu) : Operation → Option StatusEntry
  | .gp0 word =>
    if gpu.isIdle then (StatusCommand.ofDrawWord? word).map fun command => ⟨command, word⟩
    else none
  | .gp1 word => (StatusCommand.ofControlWord? word).map fun command => ⟨command, word⟩
  | .read => none

/-- The commands for the status which a sequence of operations executes, in
order. -/
def statusHistory (gpu : Gpu) : List Operation → List StatusEntry
  | [] => []
  | operation :: operations =>
    (gpu.statusCommand? operation).toList ++ (gpu.perform operation).statusHistory operations

/-- The settings which the status shows. -/
def shownSettings (gpu : Gpu) : ShownSettings where
  mode := gpu.draw.mode
  textureDisabled := gpu.draw.textureDisabled
  mask := gpu.draw.mask
  displayMode := gpu.display.mode
  dark := gpu.display.disabled
  direction := gpu.display.dmaDirection
  interrupt := gpu.interrupt

variable {gpu other : Gpu} {word : UInt32}

/-- The last operation of a sequence is the last one to execute a command. -/
theorem statusHistory_concat (gpu : Gpu) (operations : List Operation) (operation : Operation) :
    gpu.statusHistory (operations ++ [operation]) =
      gpu.statusHistory operations ++
        ((gpu.performAll operations).statusCommand? operation).toList := by
  induction operations generalizing gpu with
  | nil => exact List.append_nil _
  | cons first operations ih =>
    rw [List.cons_append, statusHistory, ih, statusHistory, List.append_assoc]
    rfl

/-- Starting a command changes the settings in the status as its word says. -/
theorem shownSettings_start (gpu : Gpu) (word : UInt32) :
    (gpu.start word).shownSettings =
      (StatusCommand.ofDrawWord? word).elim gpu.shownSettings
        fun command => gpu.shownSettings.after ⟨command, word⟩ := by
  rw [start, StatusCommand.ofDrawWord?_eq]
  cases Gp0Start.ofWord word with
  | drawOffset => simp only [shownSettings, DrawSettings.setOffset, Option.elim_none]
  | _ => rfl

/-- An operation changes the settings in the status as the command says which it
executes, and leaves them if it executes none. -/
theorem shownSettings_perform (gpu : Gpu) (operation : Operation) :
    (gpu.perform operation).shownSettings =
      (gpu.statusCommand? operation).elim gpu.shownSettings gpu.shownSettings.after := by
  cases operation with
  | gp0 word =>
    cases hidle : gpu.isIdle with
    | true =>
      rw [perform, gp0_of_isIdle hidle, shownSettings_start, statusCommand?, if_pos hidle]
      cases StatusCommand.ofDrawWord? word <;> rfl
    | false =>
      obtain ⟨hdraw, hdisplay, hinterrupt, -⟩ := settings_gp0 hidle word
      rw [perform, statusCommand?, if_neg (by rw [hidle]; exact Bool.false_ne_true), shownSettings,
        hdraw, hdisplay, hinterrupt]
      rfl
  | gp1 word =>
    have hask (question : UInt32) : (gpu.ask question).shownSettings = gpu.shownSettings := by
      rw [ask]
      split <;> rfl
    rw [perform, gp1, statusCommand?, StatusCommand.ofControlWord?]
    generalize (topByte word).toNat = opcode
    split
    case h_10 =>
      have hkept : (if 0x10 ≤ opcode ∧ opcode ≤ 0x1f then gpu.ask (bits word 0 3)
          else gpu).shownSettings = gpu.shownSettings := by
        split
        · exact hask _
        · rfl
      rw [hkept]
      split <;> first | contradiction | rfl
    all_goals rfl
  | read =>
    rw [perform, read]
    split <;> rfl

/-- After a sequence of operations from power on the status shows what the last
commands of each kind have left. -/
theorem shownSettings_performAll (operations : List Operation) :
    (powerOn.performAll operations).shownSettings =
      .ofHistory (powerOn.statusHistory operations) := by
  induction operations using List.reverseRecOn with
  | nil => rfl
  | append_singleton operations operation ih =>
    rw [performAll_concat, shownSettings_perform, ih, statusHistory_concat]
    cases (powerOn.performAll operations).statusCommand? operation with
    | none => rw [Option.toList_none, List.append_nil, Option.elim_none]
    | some entry => rw [Option.toList_some, ShownSettings.ofHistory_concat, Option.elim_some]

/-- The status is told by the settings in it. -/
theorem status_congr (h : gpu.shownSettings = other.shownSettings) :
    gpu.status = other.status := by
  simp only [shownSettings, ShownSettings.mk.injEq] at h
  obtain ⟨hmode, htextures, hmask, hdisplay, hdark, hdirection, hinterrupt⟩ := h
  rw [status, status, statusRegister, statusRegister, hmode, htextures, hmask, hdisplay, hdark,
    hdirection, hinterrupt]

/-- The direction of DMA has a field of the status, and DMA is asked for unless
it is off. -/
theorem status_direction (gpu : Gpu) :
    bits gpu.status 29 30 = gpu.display.dmaDirection.number ∧
      bit gpu.status 25 = (gpu.display.dmaDirection != .off) := by
  have hnumber : gpu.display.dmaDirection.number = bits gpu.display.dmaDirection.number 0 1 := by
    cases gpu.display.dmaDirection <;> decide
  rw [status, statusRegister, hnumber]
  simp

/-- The ready bits and the field bit are set, and the top bit is clear. -/
theorem status_fixed (gpu : Gpu) :
    bit gpu.status 13 = true ∧ bit gpu.status 26 = true ∧ bit gpu.status 27 = true ∧
      bit gpu.status 28 = true ∧ bit gpu.status 31 = false := by
  have hfield : bit (0x14002000 : UInt32) 13 = true := by decide
  have htop : bit (0x14002000 : UInt32) 31 = false := by decide
  rw [status, statusRegister, GpuRegisters.setBits_ready]
  simp [hfield, htop]

open StatusEntry in
/-- After every sequence of operations from power on each field of the status is
the one in the word of the last command that sets it since the last reset; the
screen is dark and the other fields are zero if there is none. An interrupt is
shown from the request to the acknowledgement, DMA is asked for in every
direction but off, and the other bits are fixed. The status register, of which
each command replaces its own bits, reads so. An operation which executes none
of the eight commands leaves the status. -/
theorem status_latest (operations : List Operation) :
    let gpu := powerOn.performAll operations
    let history := powerOn.statusHistory operations
    (bits gpu.status 0 10 = bits (lastWord .drawMode history) 0 10 ∧
      bit gpu.status 15 = bit (lastWord .drawMode history) 11) ∧
    bits gpu.status 11 12 = bits (lastWord .maskBits history) 0 1 ∧
    (bits gpu.status 17 22 = bits (lastWord .displayMode history) 0 5 ∧
      bit gpu.status 16 = bit (lastWord .displayMode history) 6 ∧
      bit gpu.status 14 = bit (lastWord .displayMode history) 7) ∧
    bit gpu.status 23 = (lastWord? .displayEnable history).elim true (fun word => bit word 0) ∧
    bits gpu.status 29 30 = bits (lastWord .dmaDirection history) 0 1 ∧
    bit gpu.status 24 = interruptPending history ∧
    (bit gpu.status 25 = true ↔ bits gpu.status 29 30 ≠ 0) ∧
    (bit gpu.status 13 = true ∧ bit gpu.status 26 = true ∧ bit gpu.status 27 = true ∧
      bit gpu.status 28 = true ∧ bit gpu.status 31 = false) ∧
    (GpuRegisters.powerOn.performAll operations).readStatus = gpu.status ∧
    ∀ operation, gpu.statusCommand? operation = none →
      (gpu.perform operation).status = gpu.status := by
  intro gpu history
  have hshown : gpu.shownSettings = .ofHistory history := shownSettings_performAll operations
  obtain ⟨hmode, htextures, hmask, hdisplay, hdark, hdirection, hinterrupt⟩ :=
    ShownSettings.mk.inj hshown
  obtain ⟨hnumber, hasked⟩ := status_direction gpu
  refine ⟨⟨?_, ?_⟩, ?_, ⟨?_, ?_, ?_⟩, ?_, ?_, ?_, ?_, status_fixed gpu, ?_, ?_⟩
  · rw [status, statusRegister, hmode]
    simp
  · rw [status, statusRegister, htextures]
    simp
  · rw [status, statusRegister, hmask]
    simp
  · rw [status, statusRegister, hdisplay]
    simp
  · rw [status, statusRegister, hdisplay]
    simp
  · rw [status, statusRegister, hdisplay]
    simp
  · rw [status, statusRegister, hdark]
    simp
  · rw [hnumber, hdirection]
    exact @GpuRegisters.number_ofNumber _ 0 (by decide)
  · rw [status, statusRegister, hinterrupt]
    simp
  · rw [hasked, hnumber]
    cases gpu.display.dmaDirection <;> decide
  · have hvalid := GpuRegisters.valid_powerOn.performAll operations
    rw [← GpuRegisters.shown_status hvalid.fixed, GpuRegisters.shown_performAll_powerOn]
  · intro operation hnone
    apply status_congr
    rw [shownSettings_perform, hnone, Option.elim_none]

end Gpu

end Playstation
