import Playstation.Proofs.Gpu.Status

/-!
# What a reset forgets

A reset keeps video memory and the latch, and the words in the command buffer
stay where they are. All that can be observed of the registers is what they
show, and a word that has stayed behind is not shown, now or after any further
operation. The main statement is that after a reset nothing can be observed but
what a fresh graphics processor with that video memory and that latch shows:
nothing that was begun before, no setting, and no word of an earlier command.
-/

namespace Playstation

/-- What can be observed of the graphics processor. -/
structure GpuObservation where
  /-- The status as it reads. -/
  status : UInt32
  /-- The status register. -/
  statusRegister : UInt32
  /-- The word shown at the read port. -/
  latch : UInt32
  /-- Whether the drawing port waits for a command. -/
  isIdle : Bool
  /-- Top left and bottom right corner of the drawing area. -/
  area : Corner × Corner
  /-- The distances added to every vertex. -/
  offset : Int × Int
  /-- The repeating part of the texture page. -/
  window : TextureWindow
  /-- Whether textured rectangles are mirrored left to right and top to bottom. -/
  flips : Bool × Bool
  /-- The part of video memory on the screen. -/
  screen : Screen
  /-- The pixel at a column and row. -/
  pixel : Nat → Nat → UInt16

/-- What can be observed of the settings. -/
def Gpu.observe (gpu : Gpu) : GpuObservation where
  status := gpu.status
  statusRegister := gpu.statusRegister
  latch := gpu.latch
  isIdle := gpu.isIdle
  area := (gpu.draw.topLeft, gpu.draw.bottomRight)
  offset := (gpu.draw.offsetX, gpu.draw.offsetY)
  window := gpu.draw.window
  flips := (gpu.draw.flipX, gpu.draw.flipY)
  screen :=
    ⟨gpu.display.startX, gpu.display.startY, gpu.display.horizontal, gpu.display.vertical⟩
  pixel := gpu.vram.get

namespace GpuRegisters

/-- What can be observed of the registers. -/
def observe (registers : GpuRegisters) : GpuObservation where
  status := registers.readStatus
  statusRegister := registers.status
  latch := registers.latch
  isIdle := registers.isIdle
  area := (registers.topLeft, registers.bottomRight)
  offset := (registers.offsetX, registers.offsetY)
  window := registers.window
  flips := (registers.flipX, registers.flipY)
  screen := registers.screen
  pixel := registers.vram.get

variable {registers other : GpuRegisters} {word : UInt32}

/-- The registers are observed by what they show. -/
theorem observe_shown (h : registers.Valid) : registers.shown.observe = registers.observe := by
  rw [Gpu.observe, observe, shown_status h.fixed, shown_statusRegister h.fixed, shown_isIdle]
  rfl

/-- Registers which show the same cannot be told apart, whatever is done to
both of them. -/
theorem observe_performAll_congr (h : registers.Valid) (hother : other.Valid)
    (hshown : registers.shown = other.shown) (operations : List Gpu.Operation) :
    (registers.performAll operations).observe = (other.performAll operations).observe ∧
      registers.readings operations = other.readings operations := by
  constructor
  · rw [← observe_shown (h.performAll operations), ← observe_shown (hother.performAll operations),
      shown_performAll h, shown_performAll hother, hshown]
  · rw [← shown_readings h, ← shown_readings hother, hshown]

/-- The registers with other words left behind in an empty command buffer. -/
def withStale (registers : GpuRegisters) (stale : Vector UInt32 commandBufferSize) :
    GpuRegisters :=
  { registers with buffer := { registers.buffer with words := stale } }

/-- Words which are left behind in an empty buffer are not shown. -/
theorem shown_withStale (h : registers.buffer.length = 0)
    (stale : Vector UInt32 commandBufferSize) :
    (registers.withStale stale).shown = registers.shown := by
  have hempty (buffer : CommandBuffer) (hbuffer : buffer.length = 0) : buffer.received = #[] :=
    Array.eq_empty_of_size_eq_zero (CommandBuffer.size_received.trans hbuffer)
  have hleft : (registers.withStale stale).buffer.received = registers.buffer.received := by
    rw [hempty registers.buffer h, hempty (registers.withStale stale).buffer h]
  rw [shown, hleft]
  rfl

end GpuRegisters

namespace Gpu

/-- A reset after any sequence of operations from power on leaves the graphics
processor, whatever is done next, like a fresh one whose video memory and latch
are those before the reset: every observation and every word that is read is
the same. This is true of the settings and of the registers which show them,
whatever words have stayed behind in the command buffer. -/
theorem reset_forgets (before : List Operation) {word : UInt32} (hword : topByte word = 0)
    (stale : Vector UInt32 commandBufferSize) (operations : List Operation) :
    let gpu := powerOn.performAll before
    let registers := GpuRegisters.powerOn.performAll before
    let fresh : Gpu := { powerOn with latch := gpu.latch, vram := gpu.vram }
    let freshRegisters : GpuRegisters :=
      { GpuRegisters.powerOn with latch := registers.latch, vram := registers.vram }
    ((gpu.gp1 word).performAll operations).observe = (fresh.performAll operations).observe ∧
      (gpu.gp1 word).readings operations = fresh.readings operations ∧
      registers.shown = gpu ∧
      (((registers.gp1 word).withStale stale).performAll operations).observe =
        (freshRegisters.performAll operations).observe ∧
      ((registers.gp1 word).withStale stale).readings operations =
        freshRegisters.readings operations ∧
      (freshRegisters.performAll operations).observe = (fresh.performAll operations).observe ∧
      freshRegisters.readings operations = fresh.readings operations := by
  intro gpu registers fresh freshRegisters
  have hopcode : (topByte word).toNat = 0 := by
    rw [hword]
    rfl
  have hshown : registers.shown = gpu := GpuRegisters.shown_performAll_powerOn before
  have hgpu : gpu.gp1 word = fresh := by
    rw [gp1, hopcode]
    rfl
  have hreset : registers.gp1 word = registers.reset := by
    rw [GpuRegisters.gp1, hopcode]
    rfl
  have hfresh : freshRegisters.shown = fresh := by
    have hkept : freshRegisters.shown =
        { GpuRegisters.powerOn.shown with
          latch := registers.shown.latch
          vram := registers.shown.vram } := rfl
    rw [hkept, GpuRegisters.shown_powerOn, hshown]
  have hfreshValid : freshRegisters.Valid := ⟨GpuRegisters.valid_powerOn.fixed, trivial⟩
  have hstained : (registers.reset.withStale stale).shown = freshRegisters.shown := by
    rw [GpuRegisters.shown_withStale rfl, GpuRegisters.shown_reset, hshown, hfresh]
    rfl
  have hstainedValid : (registers.reset.withStale stale).Valid :=
    ⟨(GpuRegisters.valid_reset registers).fixed, trivial⟩
  obtain ⟨hobserved, hread⟩ :=
    GpuRegisters.observe_performAll_congr hstainedValid hfreshValid hstained operations
  rw [hgpu, hreset]
  refine ⟨rfl, rfl, hshown, hobserved, hread, ?_, ?_⟩
  · rw [← GpuRegisters.observe_shown (hfreshValid.performAll operations),
      GpuRegisters.shown_performAll hfreshValid, hfresh]
  · rw [← GpuRegisters.shown_readings hfreshValid, hfresh]

/-- Three words of a polygon have arrived, and stay behind in the buffer. A fill
which is started after the reset has only one of its three words. -/
theorem reset_forgets_polygon :
    let before : List Operation := [.gp0 0x3c000000, .gp0 0x00100010, .gp0 0x00200020]
    let operations : List Operation := [.gp0 0x02ffffff, .gp1 0x10000007, .read]
    let registers := GpuRegisters.powerOn.performAll before
    let fresh : GpuRegisters :=
      { GpuRegisters.powerOn with latch := registers.latch, vram := registers.vram }
    topByte 0x00ffffff = 0 ∧ registers.buffer.received = #[0x3c000000, 0x00100010, 0x00200020] ∧
      ((registers.gp1 0x00ffffff).performAll operations).observe =
        (fresh.performAll operations).observe ∧
      (registers.gp1 0x00ffffff).readings operations = fresh.readings operations := by
  intro before operations registers fresh
  have hword : topByte 0x00ffffff = 0 := by decide
  obtain ⟨-, -, -, hobserved, hread, -⟩ :=
    reset_forgets before hword (registers.gp1 0x00ffffff).buffer.words operations
  exact ⟨hword, rfl, hobserved, hread⟩

end Gpu

end Playstation
