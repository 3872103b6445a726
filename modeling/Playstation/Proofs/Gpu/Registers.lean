import Playstation.Proofs.Field
import Playstation.Proofs.Gpu.Operation

/-!
# Registers of the graphics processor

Most settings of the graphics processor share its status register, and the words
of a command are in a buffer which is emptied by setting its length to zero, so
that words of earlier commands stay behind. Here is the processor with that
register and that buffer. The settings and the phase are what the registers
show, and the main statement is that each operation does to the registers what
it does to the settings: a handler replaces its own bits of the status register
only, and looks at no word of the buffer which has stayed behind.
-/

namespace Playstation

open MachineWord

/-- The buffer for the words of a command. -/
structure CommandBuffer where
  /-- The words that have arrived, and behind them those which were left by
  earlier commands. -/
  words : Vector UInt32 commandBufferSize
  /-- How many words have arrived. -/
  length : Nat
  /-- There is room for them. -/
  length_le : length ≤ commandBufferSize

namespace CommandBuffer

/-- No word has arrived yet. -/
def empty : CommandBuffer := ⟨Vector.replicate _ 0, 0, Nat.zero_le _⟩

/-- Forget the words, which stay behind. -/
def clear (buffer : CommandBuffer) : CommandBuffer := ⟨buffer.words, 0, Nat.zero_le _⟩

/-- Keep a word. A full buffer stays as it is. -/
def push (buffer : CommandBuffer) (word : UInt32) : CommandBuffer :=
  if h : buffer.length < commandBufferSize then
    ⟨buffer.words.set buffer.length word h, buffer.length + 1, h⟩
  else buffer

/-- The words that have arrived. -/
def received (buffer : CommandBuffer) : Array UInt32 :=
  buffer.words.toArray.extract 0 buffer.length

/-- A word that has arrived, or zero. -/
def word (buffer : CommandBuffer) (k : Nat) : UInt32 := buffer.received.getD k 0

variable {buffer : CommandBuffer} {word : UInt32}

/-- As many words have arrived as the length says. -/
theorem size_received : buffer.received.size = buffer.length := by
  rw [received, Array.size_extract, Vector.size_toArray, Nat.min_eq_left buffer.length_le,
    Nat.sub_zero]

/-- The words that have arrived are those below the length. -/
theorem getElem?_received (k : Nat) :
    buffer.received[k]? = if k < buffer.length then buffer.words[k]? else none := by
  rw [received, Array.getElem?_extract, Vector.size_toArray, Nat.min_eq_left buffer.length_le,
    Nat.sub_zero, Nat.zero_add, Vector.getElem?_toArray]

/-- No word has arrived in an emptied buffer. -/
theorem received_clear : buffer.clear.received = #[] := Array.extract_zero

/-- A word arrives behind the others. -/
theorem received_push (h : buffer.length < commandBufferSize) :
    (buffer.push word).received = buffer.received.push word := by
  refine Array.ext_getElem? fun k => ?_
  rw [getElem?_received, Array.getElem?_push, size_received, getElem?_received, push, dif_pos h]
  by_cases hlast : k = buffer.length
  · rw [if_pos hlast, hlast, if_pos (Nat.lt_succ_self _), Vector.getElem?_set_self h]
  · rw [if_neg hlast, Vector.getElem?_set_ne h (Ne.symm hlast)]
    have hkept : k < buffer.length + 1 ↔ k < buffer.length := by omega
    exact if_congr hkept rfl rfl

end CommandBuffer

/-- What the next word at the drawing port means, apart from the words that have
arrived. -/
inductive PortPhase where
  /-- It starts a command. -/
  | idle
  /-- It is a parameter of a command, of which `remaining` are still to come. -/
  | collecting (command : Gp0Command) (remaining : Nat)
  /-- It is a vertex of a poly-line or its terminator. -/
  | polyLine
  /-- It holds two pixels of an image of which `done` pixels have arrived. -/
  | storing (image : Rect) (done : Nat)
  /-- It starts a command, while the read port delivers an image of which
  `done` pixels have been read. -/
  | loading (image : Rect) (done : Nat)
  deriving DecidableEq

/-- The phase together with the words that have arrived. -/
def PortPhase.withWords (words : Array UInt32) : PortPhase → Gp0Phase
  | idle => .idle
  | collecting command remaining => .collecting command words remaining
  | polyLine => .polyLine
  | storing image done => .storing image done
  | loading image done => .loading image done

/-- What part of video memory is shown, and where on the screen. -/
structure Screen where
  /-- Column of video memory shown at the left. -/
  startX : UInt32
  /-- Row of video memory shown at the top. -/
  startY : UInt32
  /-- First and last video clock of a line. -/
  horizontal : UInt32 × UInt32
  /-- First and last line of a frame. -/
  vertical : UInt32 × UInt32
  deriving DecidableEq

/-- The registers of the graphics processor, and video memory. -/
structure GpuRegisters where
  /-- The status register. -/
  status : UInt32
  /-- Phase of the drawing port. -/
  phase : PortPhase
  /-- Words of the command being received. -/
  buffer : CommandBuffer
  /-- The word shown at the read port. -/
  latch : UInt32
  /-- Video memory. -/
  vram : Vram
  /-- Whether textured rectangles are mirrored left to right. -/
  flipX : Bool
  /-- Whether textured rectangles are mirrored top to bottom. -/
  flipY : Bool
  /-- The repeating part of the texture page. -/
  window : TextureWindow
  /-- Top left corner of the drawing area, inside. -/
  topLeft : Corner
  /-- Bottom right corner of the drawing area, inside. -/
  bottomRight : Corner
  /-- Horizontal distance added to every vertex. -/
  offsetX : Int
  /-- Vertical distance added to every vertex. -/
  offsetY : Int
  /-- The part of video memory on the screen. -/
  screen : Screen

namespace GpuRegisters

/-- Empty the command buffer and wait for a command. -/
def resetBuffer (registers : GpuRegisters) : GpuRegisters :=
  { registers with buffer := registers.buffer.clear, phase := .idle }

/-- Reset everything but video memory and the latch. -/
def reset (registers : GpuRegisters) : GpuRegisters :=
  { registers.resetBuffer with
    status := 0x14802000
    screen := ⟨0, 0, (0x200, 0xc00), (0x10, 0x100)⟩
    flipX := false
    flipY := false
    window := ⟨0, 0, 0, 0⟩
    topLeft := ⟨0, 0⟩
    bottomRight := ⟨0, 0⟩
    offsetX := 0
    offsetY := 0 }

/-- The registers at power on: zero, and then reset. -/
def powerOn : GpuRegisters :=
  reset ⟨0, .idle, .empty, 0, .powerOn, false, false, ⟨0, 0, 0, 0⟩, ⟨0, 0⟩, ⟨0, 0⟩, 0, 0,
    ⟨0, 0, (0, 0), (0, 0)⟩⟩

/-- The drawing settings which the registers show. -/
def draw (registers : GpuRegisters) : DrawSettings where
  mode := bits registers.status 0 10
  textureDisabled := bit registers.status 15
  flipX := registers.flipX
  flipY := registers.flipY
  window := registers.window
  topLeft := registers.topLeft
  bottomRight := registers.bottomRight
  offsetX := registers.offsetX
  offsetY := registers.offsetY
  mask := bits registers.status 11 12

/-- The display mode in the status register, as in the command that sets it. -/
def displayMode (status : UInt32) : UInt32 :=
  setBit (setBit (bits status 17 22) 6 (bit status 16)) 7 (bit status 14)

/-- The display settings which the registers show. -/
def display (registers : GpuRegisters) : DisplaySettings where
  startX := registers.screen.startX
  startY := registers.screen.startY
  horizontal := registers.screen.horizontal
  vertical := registers.screen.vertical
  mode := displayMode registers.status
  disabled := bit registers.status 23
  dmaDirection := GpuDmaDirection.ofNumber (bits registers.status 29 30)

/-- The settings and the phase which the registers show. -/
def shown (registers : GpuRegisters) : Gpu where
  draw := registers.draw
  display := registers.display
  interrupt := bit registers.status 24
  phase := registers.phase.withWords registers.buffer.received
  latch := registers.latch
  vram := registers.vram

/-- The status register as it reads. Three ready bits are set, and DMA is asked
for if the one which belongs to its direction is. -/
def readStatus (registers : GpuRegisters) : UInt32 :=
  let value := setBit (setBit (setBit registers.status 26 true) 27 true) 28 true
  setBit value 25
    (match GpuDmaDirection.ofNumber (bits registers.status 29 30) with
    | .off => false
    | .fifo => true
    | .cpuToGp0 => bit value 28
    | .vramToCpu => bit value 27)

/-- Whether the drawing port waits for the first word of a command. -/
def isIdle (registers : GpuRegisters) : Bool :=
  match registers.phase with
  | .idle | .loading _ _ => true
  | _ => false

/-- Read the read port. -/
def read (registers : GpuRegisters) : GpuRegisters :=
  match registers.phase with
  | .loading image done =>
    { registers with
      latch := Gpu.imageWord registers.vram image done
      phase := if done + 2 < image.area then .loading image (done + 2) else .idle }
  | _ => registers

/-- Run a command whose words are in the buffer. -/
def execute (registers : GpuRegisters) (command : Gp0Command) : GpuRegisters :=
  let word (k : Nat) : UInt32 := registers.buffer.word k
  match command with
  | .fillRect =>
    { registers with
      phase := .idle
      vram := registers.vram.fill (Rect.ofFillWords (word 1) (word 2)) (pixelOfColour (word 0)) }
  | .polygon | .line | .rect => { registers with phase := .idle }
  | .vramToVram =>
    { registers with
      phase := .idle
      vram := registers.vram.copy (Rect.ofImageWords (word 1) (word 3))
        (Rect.ofImageWords (word 2) (word 3)) }
  | .cpuToVram => { registers with phase := .storing (Rect.ofImageWords (word 1) (word 2)) 0 }
  | .vramToCpu => { registers with phase := .loading (Rect.ofImageWords (word 1) (word 2)) 0 }

/-- Run a command which the first word in the buffer starts. -/
def startBuffered (registers : GpuRegisters) (command : Gp0Start) : GpuRegisters :=
  let word := registers.buffer.word 0
  match command with
  | .nop | .clearCache | .unknown => { registers with phase := .idle }
  | .requestInterrupt =>
    { registers with phase := .idle, status := setBit registers.status 24 true }
  | .polyLine => { registers with phase := .polyLine }
  | .drawMode =>
    { registers with
      phase := .idle
      status := setBit (setBits registers.status 0 10 (bits word 0 10)) 15 (bit word 11)
      flipX := bit word 12
      flipY := bit word 13 }
  | .textureWindow =>
    { registers with
      phase := .idle
      window := ⟨bits word 0 4, bits word 5 9, bits word 10 14, bits word 15 19⟩ }
  | .areaTopLeft => { registers with phase := .idle, topLeft := DrawSettings.cornerOf word }
  | .areaBottomRight =>
    { registers with phase := .idle, bottomRight := DrawSettings.cornerOf word }
  | .drawOffset =>
    { registers with
      phase := .idle
      offsetX := DrawSettings.signedField (bits word 0 10)
      offsetY := DrawSettings.signedField (bits word 11 21) }
  | .maskBits =>
    { registers with phase := .idle, status := setBits registers.status 11 12 (bits word 0 1) }
  | .collect command length => { registers with phase := .collecting command (length - 1) }

/-- Start a command. Its word is the first one in the buffer. -/
def start (registers : GpuRegisters) (word : UInt32) : GpuRegisters :=
  startBuffered { registers with buffer := registers.buffer.clear.push word } (.ofWord word)

/-- Write a word to the drawing port. -/
def gp0 (registers : GpuRegisters) (word : UInt32) : GpuRegisters :=
  match registers.phase with
  | .idle | .loading _ _ => registers.start word
  | .collecting command remaining =>
    let registers := { registers with buffer := registers.buffer.push word }
    if remaining > 1 then { registers with phase := .collecting command (remaining - 1) }
    else registers.execute command
  | .polyLine => if endsPolyLine word then { registers with phase := .idle } else registers
  | .storing image done =>
    { registers with
      vram := Gpu.storePixels image done word registers.vram
      phase := if done + 2 < image.area then .storing image (done + 2) else .idle }

/-- Latch the answer to a question, or keep the latch. -/
def ask (registers : GpuRegisters) (question : UInt32) : GpuRegisters :=
  match registers.shown.info? question with
  | some answer => { registers with latch := answer }
  | none => registers

/-- Write a word to the control port. -/
def gp1 (registers : GpuRegisters) (word : UInt32) : GpuRegisters :=
  let status := registers.status
  match (topByte word).toNat with
  | 0x00 => registers.reset
  | 0x01 => registers.resetBuffer
  | 0x02 => { registers with status := setBit status 24 false }
  | 0x03 => { registers with status := setBit status 23 (bit word 0) }
  | 0x04 => { registers with status := setBits status 29 30 (bits word 0 1) }
  | 0x05 =>
    { registers with
      screen := { registers.screen with startX := bits word 0 9, startY := bits word 10 18 } }
  | 0x06 =>
    { registers with
      screen := { registers.screen with horizontal := (bits word 0 11, bits word 12 23) } }
  | 0x07 =>
    { registers with
      screen := { registers.screen with vertical := (bits word 0 9, bits word 10 19) } }
  | 0x08 =>
    { registers with
      status :=
        setBit (setBit (setBits status 17 22 (bits word 0 5)) 16 (bit word 6)) 14 (bit word 7) }
  | opcode => if 0x10 ≤ opcode ∧ opcode ≤ 0x1f then registers.ask (bits word 0 3) else registers

/-- The registers after an operation. -/
def perform (registers : GpuRegisters) (operation : Gpu.Operation) : GpuRegisters :=
  match operation with
  | .gp0 word => registers.gp0 word
  | .gp1 word => registers.gp1 word
  | .read => registers.read

/-- The registers after a sequence of operations. -/
def performAll (registers : GpuRegisters) (operations : List Gpu.Operation) : GpuRegisters :=
  operations.foldl perform registers

/-- The words which the reads of a sequence return, in order. -/
def readings (registers : GpuRegisters) : List Gpu.Operation → List UInt32
  | [] => []
  | operation :: operations =>
    operation.returned (registers.perform operation).latch ++
      (registers.perform operation).readings operations

variable {registers : GpuRegisters} {word : UInt32}

/-- The phase which the registers show. -/
theorem shown_phase :
    registers.shown.phase = registers.phase.withWords registers.buffer.received := rfl

/-- The registers show a reset after a reset. -/
theorem shown_reset : registers.reset.shown = registers.shown.reset := by
  have hdraw : registers.reset.draw = .powerOn := by
    have hmode : bits (0x14802000 : UInt32) 0 10 = 0 := by decide
    have hmask : bits (0x14802000 : UInt32) 11 12 = 0 := by decide
    simp only [draw, reset, hmode, hmask]
    rfl
  have hdisplay : registers.reset.display = .powerOn := by
    have hdirection : GpuDmaDirection.ofNumber (bits (0x14802000 : UInt32) 29 30) = .off := by
      decide
    have hmode : displayMode 0x14802000 = 0 := by decide
    simp only [display, reset, hdirection, hmode]
    rfl
  have hinterrupt : bit registers.reset.status 24 = false := by
    change bit (0x14802000 : UInt32) 24 = false
    decide
  rw [shown, hdraw, hdisplay, hinterrupt]
  rfl

/-- The registers show power on at power on. -/
theorem shown_powerOn : powerOn.shown = Gpu.powerOn := shown_reset

/-- A read of the registers shows a read. -/
theorem shown_read : registers.read.shown = registers.shown.read := by
  rw [read, Gpu.read, shown_phase]
  cases registers.phase with
  | loading image done =>
    simp only [PortPhase.withWords]
    by_cases hleft : done + 2 < image.area
    · rw [if_pos hleft, if_pos hleft]
      rfl
    · rw [if_neg hleft, if_neg hleft]
      rfl
  | _ => rfl

/-- A command finds its words in the buffer. -/
theorem shown_execute (command : Gp0Command) :
    (registers.execute command).shown =
      registers.shown.execute command registers.buffer.received := by
  cases command <;> rfl

/-- A command which is started finds its word in the buffer. -/
theorem shown_start : (registers.start word).shown = registers.shown.start word := by
  have hroom : registers.buffer.clear.length < commandBufferSize := Nat.zero_lt_succ _
  have hreceived : (registers.buffer.clear.push word).received = #[word] := by
    rw [CommandBuffer.received_push hroom, CommandBuffer.received_clear]
    rfl
  have hword : (registers.buffer.clear.push word).word 0 = word := by
    rw [CommandBuffer.word, hreceived]
    rfl
  rw [start, Gpu.start]
  cases Gp0Start.ofWord word with
  | requestInterrupt | maskBits | drawMode =>
    simp [startBuffered, hword, shown, draw, display, displayMode, PortPhase.withWords,
      DrawSettings.setMode]
  | nop | clearCache | unknown | polyLine => rfl
  | collect command length =>
    rw [startBuffered, shown]
    simp only [PortPhase.withWords, hreceived]
    rfl
  | textureWindow | areaTopLeft | areaBottomRight | drawOffset =>
    simp only [startBuffered, hword, shown, draw, display, PortPhase.withWords,
      DrawSettings.setWindow, DrawSettings.setOffset]

/-- A word at the drawing port does to the registers what it does to the
settings, as long as there is room for it. -/
theorem shown_gp0 (hvalid : registers.shown.phase.Valid) :
    (registers.gp0 word).shown = registers.shown.gp0 word := by
  rw [gp0, Gpu.gp0]
  rw [shown_phase] at hvalid ⊢
  cases hphase : registers.phase with
  | idle | loading => exact shown_start
  | collecting command remaining =>
    -- As long as words are to come there is room for one, so none is dropped.
    rw [hphase] at hvalid
    obtain ⟨-, hremaining, hsize⟩ := hvalid
    rw [CommandBuffer.size_received] at hsize
    have hpush : (registers.buffer.push word).received = registers.buffer.received.push word :=
      CommandBuffer.received_push (by omega)
    simp only [PortPhase.withWords]
    by_cases hmore : remaining > 1
    · rw [if_pos hmore, if_pos hmore, ← hpush]
      rfl
    · rw [if_neg hmore, if_neg hmore, shown_execute, hpush]
      exact @Gpu.execute_withPhase registers.shown _ command _
  | polyLine =>
    simp only [PortPhase.withWords]
    by_cases hends : endsPolyLine word = true
    · rw [if_pos hends, if_pos hends]
      rfl
    · rw [if_neg hends, if_neg hends]
  | storing image done =>
    simp only [PortPhase.withWords]
    by_cases hleft : done + 2 < image.area
    · rw [if_pos hleft, if_pos hleft]
      rfl
    · rw [if_neg hleft, if_neg hleft]
      rfl

/-- The bits of a display mode are put into three fields. -/
theorem displayMode_of_word (status : UInt32) :
    displayMode (setBit (setBit (setBits status 17 22 (bits word 0 5)) 16 (bit word 6)) 14
      (bit word 7)) = bits word 0 7 := by
  have hmode : setBit (setBit (bits word 0 5) 6 (bit word 6)) 7 (bit word 7) = bits word 0 7 := by
    refine eq_of_getLsbD_eq fun i _ => ?_
    rw [getLsbD_setBit _ (by decide), getLsbD_setBit _ (by decide),
      getLsbD_bits _ (by decide) (by decide), getLsbD_bits _ (by decide) (by decide),
      bit_eq_getLsbD (by decide), bit_eq_getLsbD (by decide)]
    by_cases h7 : i = 7
    · simp [h7]
    · by_cases h6 : i = 6
      · simp [h6]
      · rw [if_neg h7, if_neg h6]
        exact congrArg _ (decide_eq_decide.mpr (by omega))
  simp [displayMode, hmode]

/-- A word at the control port does to the registers what it does to the
settings. -/
theorem shown_gp1 : (registers.gp1 word).shown = registers.shown.gp1 word := by
  rw [gp1, Gpu.gp1]
  generalize (topByte word).toNat = opcode
  split
  case h_1 => exact shown_reset
  case h_2 => rfl
  case h_3 | h_4 | h_5 =>
    simp [shown, draw, display, displayMode]
  case h_6 => rfl
  case h_7 => rfl
  case h_8 => rfl
  case h_9 =>
    simp [shown, draw, display, displayMode_of_word, DisplaySettings.setMode]
  case h_10 =>
    by_cases hasks : 0x10 ≤ opcode ∧ opcode ≤ 0x1f
    · simp only [hasks, and_self, if_true, ask, Gpu.ask]
      cases registers.shown.info? (bits word 0 3) <;> rfl
    · simp only [hasks, if_false]

end GpuRegisters

end Playstation
