import Playstation.Proofs.Gpu.Status

/-!
# Two independent ports

Words written to the drawing port and reads on the one side, and the display
commands of the control port on the other, do not see each other. Their bits of
the status register are disjoint, and nothing else is shared. So two sequences,
one of each side, can be interleaved in any way: the main statement is that all
ways end with the same state and return the same words.
-/

namespace Playstation

/-- A sequence consists of two others, the order of each of which it keeps. -/
inductive Interleaves {α : Type} : List α → List α → List α → Prop
  /-- Nothing is left of either. -/
  | nil : Interleaves [] [] []
  /-- The next element is the one of the first sequence. -/
  | left {x : α} {first second merged : List α} (rest : Interleaves first second merged) :
    Interleaves (x :: first) second (x :: merged)
  /-- The next element is the one of the second sequence. -/
  | right {x : α} {first second merged : List α} (rest : Interleaves first second merged) :
    Interleaves first (x :: second) (x :: merged)

namespace Gpu

/-- Whether an operation is a word at the drawing port or a read. -/
def Operation.isDrawing : Operation → Bool
  | gp0 _ | read => true
  | gp1 _ => false

/-- Whether an operation is one of the display commands. -/
def Operation.isDisplay : Operation → Bool
  | gp1 word => 3 ≤ (topByte word).toNat && (topByte word).toNat ≤ 8
  | gp0 _ | read => false

end Gpu

namespace GpuRegisters

variable {registers : GpuRegisters} {drawing display : Gpu.Operation}
  {drawings displays merged : List Gpu.Operation}

/-- A drawing operation replaces bits of its own, and does not depend on the
display. -/
theorem perform_frame (registers : GpuRegisters) (h : drawing.isDrawing = true) :
    ∃ f, Puts drawBits f ∧ ∀ status screen,
      (registers.withDisplay status screen).perform drawing =
        (registers.perform drawing).withDisplay (f status) screen := by
  cases drawing with
  | gp0 word => exact gp0_frame registers word
  | gp1 word => cases h
  | read => exact ⟨fun status => status, Puts.id _, read_frame registers⟩

/-- A drawing operation and a display command can be exchanged, and what the
drawing operation returns does not change. -/
theorem perform_comm (hdrawing : drawing.isDrawing = true) (hdisplay : display.isDisplay = true) :
    (registers.perform display).perform drawing = (registers.perform drawing).perform display ∧
      ((registers.perform display).perform drawing).latch = (registers.perform drawing).latch := by
  obtain ⟨f, hf, hdraw⟩ := perform_frame registers hdrawing
  cases display with
  | gp0 | read => cases hdisplay
  | gp1 word =>
    obtain ⟨hlow, hhigh⟩ := Bool.and_eq_true_iff.mp hdisplay
    obtain ⟨g, screen, hg, hgp1⟩ :=
      gp1_display (of_decide_eq_true hlow) (of_decide_eq_true hhigh)
    -- Without a display command the operation finds the display there is.
    have hself := hdraw registers.status registers.screen
    have hstatus : (registers.perform drawing).status = f registers.status :=
      (congrArg status hself :)
    have hscreen : (registers.perform drawing).screen = registers.screen :=
      (congrArg GpuRegisters.screen hself :)
    have hdisplay (registers : GpuRegisters) : registers.perform (.gp1 word) =
        registers.withDisplay (g registers.status) (screen registers.screen) := hgp1 registers
    rw [hdisplay, hdraw, hdisplay, hstatus, hscreen, hf.comm hg (by decide)]
    exact ⟨rfl, rfl⟩

/-- A display command can be put behind drawing operations. -/
theorem performAll_display (hdrawings : ∀ drawing ∈ drawings, drawing.isDrawing = true)
    (hdisplay : display.isDisplay = true) :
    (registers.perform display).performAll drawings =
        (registers.performAll drawings).perform display ∧
      (registers.perform display).readings drawings = registers.readings drawings := by
  induction drawings generalizing registers with
  | nil => exact ⟨rfl, rfl⟩
  | cons drawing drawings ih =>
    obtain ⟨hcomm, hlatch⟩ := @perform_comm registers drawing display
      (hdrawings _ (List.mem_cons_self ..)) hdisplay
    obtain ⟨hstate, hreadings⟩ := @ih (registers.perform drawing)
      fun other hother => hdrawings other (List.mem_cons_of_mem _ hother)
    rw [readings, readings, hlatch, hcomm, hreadings]
    refine ⟨?_, rfl⟩
    change ((registers.perform display).perform drawing).performAll drawings = _
    rw [hcomm, hstate]
    rfl

/-- All interleavings end like the drawing operations with the display commands
behind them. -/
theorem performAll_interleaves (hdrawings : ∀ drawing ∈ drawings, drawing.isDrawing = true)
    (hdisplays : ∀ display ∈ displays, display.isDisplay = true)
    (h : Interleaves drawings displays merged) :
    registers.performAll merged = (registers.performAll drawings).performAll displays ∧
      registers.readings merged = registers.readings drawings := by
  induction h generalizing registers with
  | nil => exact ⟨rfl, rfl⟩
  | @left drawing drawings displays merged _ ih =>
    obtain ⟨hstate, hreadings⟩ := @ih (registers.perform drawing)
      (fun other hother => hdrawings other (List.mem_cons_of_mem _ hother)) hdisplays
    refine ⟨hstate, ?_⟩
    rw [readings, readings, hreadings]
  | @right display drawings displays merged _ ih =>
    -- The command comes first, and moves behind all drawing operations.
    have hdisplay := hdisplays display (List.mem_cons_self ..)
    obtain ⟨hstate, hreadings⟩ := @ih (registers.perform display) hdrawings
      fun other hother => hdisplays other (List.mem_cons_of_mem _ hother)
    obtain ⟨hmoved, hreturned⟩ := @performAll_display registers display drawings hdrawings hdisplay
    have hnothing (latch : UInt32) : display.returned latch = [] := by
      cases display with
      | gp0 | gp1 => rfl
      | read => cases hdisplay
    rw [hmoved] at hstate
    rw [readings, hnothing, List.nil_append, hreadings]
    exact ⟨hstate, hreturned⟩

end GpuRegisters

namespace Gpu

/-- After every sequence of operations from power on, a list of words for the
drawing port and reads, and a list of display commands, end with the same state
and return the same words whichever way they are interleaved. This is true of
the settings and of the registers which show them, the status register and the
command buffer included. -/
theorem interleaving_irrelevant (before : List Operation) {drawings displays : List Operation}
    (hdrawings : ∀ drawing ∈ drawings, drawing.isDrawing = true)
    (hdisplays : ∀ display ∈ displays, display.isDisplay = true) {merged other : List Operation}
    (hmerged : Interleaves drawings displays merged)
    (hother : Interleaves drawings displays other) :
    let gpu := powerOn.performAll before
    let registers := GpuRegisters.powerOn.performAll before
    gpu.performAll merged = gpu.performAll other ∧
      gpu.readings merged = gpu.readings other ∧
      registers.shown = gpu ∧
      registers.performAll merged = registers.performAll other ∧
      registers.readings merged = registers.readings other := by
  intro gpu registers
  have hvalid : registers.Valid := GpuRegisters.valid_powerOn.performAll before
  have hshown : registers.shown = gpu := GpuRegisters.shown_performAll_powerOn before
  obtain ⟨hstate, hreadings⟩ :=
    @GpuRegisters.performAll_interleaves registers _ _ _ hdrawings hdisplays hmerged
  obtain ⟨hstate', hreadings'⟩ :=
    @GpuRegisters.performAll_interleaves registers _ _ _ hdrawings hdisplays hother
  have hsame : registers.performAll merged = registers.performAll other :=
    hstate.trans hstate'.symm
  have hreturned : registers.readings merged = registers.readings other :=
    hreadings.trans hreadings'.symm
  refine ⟨?_, ?_, hshown, hsame, hreturned⟩
  · rw [← hshown, ← GpuRegisters.shown_performAll hvalid, hsame,
      GpuRegisters.shown_performAll hvalid]
  · rw [← hshown, GpuRegisters.shown_readings hvalid, hreturned,
      ← GpuRegisters.shown_readings hvalid]

/-- An image is being read when the display commands arrive, between two reads
and after them, or all of them before. -/
theorem interleaving_irrelevant_loading :
    let gpu := powerOn.performAll [.gp0 0xc0000000, .gp0 0, .gp0 0x00010003]
    let drawings : List Operation := [.read, .read, .gp0 0xe1000805]
    let displays : List Operation := [.gp1 0x03000000, .gp1 0x080000ff]
    let merged : List Operation :=
      [.read, .gp1 0x03000000, .read, .gp0 0xe1000805, .gp1 0x080000ff]
    let other : List Operation :=
      [.gp1 0x03000000, .gp1 0x080000ff, .read, .read, .gp0 0xe1000805]
    (∀ drawing ∈ drawings, drawing.isDrawing = true) ∧
      (∀ display ∈ displays, display.isDisplay = true) ∧
      Interleaves drawings displays merged ∧ Interleaves drawings displays other ∧
      gpu.performAll merged = gpu.performAll other ∧ gpu.readings merged = gpu.readings other := by
  intro gpu drawings displays merged other
  have hdrawings : ∀ drawing ∈ drawings, drawing.isDrawing = true := by decide
  have hdisplays : ∀ display ∈ displays, display.isDisplay = true := by decide
  have hmerged : Interleaves drawings displays merged :=
    .left (.right (.left (.left (.right .nil))))
  have hother : Interleaves drawings displays other :=
    .right (.right (.left (.left (.left .nil))))
  have hsame := interleaving_irrelevant [.gp0 0xc0000000, .gp0 0, .gp0 0x00010003] hdrawings
    hdisplays hmerged hother
  exact ⟨hdrawings, hdisplays, hmerged, hother, hsame.1, hsame.2.1⟩

end Gpu

end Playstation
