import Playstation.Gpu.Command
import Playstation.Gpu.Settings

/-!
# The graphics processor

The graphics processor keeps its settings and moves images in and out of video
memory; drawing commands are received in full and not drawn. Words written to
the drawing port are commands, parameters, vertices or pixels depending on the
phase, words written to the control port act at once, and the read port shows
a latch which an image on its way to the processor feeds.
-/

namespace Playstation

/-- What the next word at the drawing port means. -/
inductive Gp0Phase where
  /-- It starts a command. -/
  | idle
  /-- It is a parameter of a command, of which `words` have arrived and
  `remaining` are still to come. -/
  | collecting (command : Gp0Command) (words : Array UInt32) (remaining : Nat)
  /-- It is a vertex of a poly-line or its terminator. -/
  | polyLine
  /-- It holds two pixels of an image of which `done` pixels have arrived. -/
  | storing (image : Rect) (done : Nat)
  /-- It starts a command, while the read port delivers an image of which
  `done` pixels have been read. -/
  | loading (image : Rect) (done : Nat)
  deriving DecidableEq

/-- The graphics processor. -/
structure Gpu where
  /-- Settings for drawing. -/
  draw : DrawSettings
  /-- Settings for the screen. -/
  display : DisplaySettings
  /-- Whether a command has asked for an interrupt. -/
  interrupt : Bool
  /-- Phase of the drawing port. -/
  phase : Gp0Phase
  /-- The word shown at the read port. -/
  latch : UInt32
  /-- Video memory. -/
  vram : Vram

namespace Gpu

/-- The graphics processor at power on. -/
def powerOn : Gpu := ⟨.powerOn, .powerOn, false, .idle, 0, .powerOn⟩

/-- Whether the drawing port waits for the first word of a command. -/
def isIdle (gpu : Gpu) : Bool :=
  match gpu.phase with
  | .idle | .loading _ _ => true
  | _ => false

/-- The kept bits of the status register. The field bit and two of the ready
bits are always set. -/
def statusRegister (gpu : Gpu) : UInt32 :=
  let value := setBits 0x14002000 0 10 gpu.draw.mode
  let value := setBits value 11 12 gpu.draw.mask
  let value := setBit value 14 (bit gpu.display.mode 7)
  let value := setBit value 15 gpu.draw.textureDisabled
  let value := setBit value 16 (bit gpu.display.mode 6)
  let value := setBits value 17 22 (bits gpu.display.mode 0 5)
  let value := setBit value 23 gpu.display.disabled
  let value := setBit value 24 gpu.interrupt
  setBits value 29 30 gpu.display.dmaDirection.number

/-- The status register as it reads. The graphics processor is always ready
for commands and blocks, so DMA is asked for in every direction but none. -/
def status (gpu : Gpu) : UInt32 :=
  let value := setBits gpu.statusRegister 26 28 7
  setBit value 25 (gpu.display.dmaDirection != .off)

/-- The pixels from number `k` on that fit into one word, at most two, with
the first in the low half. -/
def imageWord (vram : Vram) (image : Rect) (k : Nat) : UInt32 :=
  let low := if k < image.area then (vram.getIn image k).toUInt32 else 0
  if k + 1 < image.area then low ||| (vram.getIn image (k + 1)).toUInt32 <<< 16 else low

/-- Read the read port: an image in progress moves its next word to the latch,
whose value is what the read returns. -/
def read (gpu : Gpu) : Gpu :=
  match gpu.phase with
  | .loading image done =>
    { gpu with
      latch := imageWord gpu.vram image done
      phase := if done + 2 < image.area then .loading image (done + 2) else .idle }
  | _ => gpu

/-- Keep up to two pixels of an image. The upper half of the last word of an
odd image is thrown away. -/
def storePixels (image : Rect) (k : Nat) (word : UInt32) (vram : Vram) : Vram :=
  let vram := if k < image.area then vram.setIn image k word.toUInt16 else vram
  if k + 1 < image.area then vram.setIn image (k + 1) (word >>> 16).toUInt16 else vram

/-- Run a command all of whose words have arrived, the command word first. -/
def execute (gpu : Gpu) (command : Gp0Command) (words : Array UInt32) : Gpu :=
  let word (k : Nat) : UInt32 := words.getD k 0
  match command with
  | .fillRect =>
    { gpu with
      phase := .idle
      vram := gpu.vram.fill (Rect.ofFillWords (word 1) (word 2)) (pixelOfColour (word 0)) }
  | .polygon | .line | .rect => { gpu with phase := .idle }
  | .vramToVram =>
    { gpu with
      phase := .idle
      vram := gpu.vram.copy (Rect.ofImageWords (word 1) (word 3))
        (Rect.ofImageWords (word 2) (word 3)) }
  | .cpuToVram => { gpu with phase := .storing (Rect.ofImageWords (word 1) (word 2)) 0 }
  | .vramToCpu => { gpu with phase := .loading (Rect.ofImageWords (word 1) (word 2)) 0 }

/-- Start a command. Any command, also an unknown one, ends an image on its
way to the processor. -/
def start (gpu : Gpu) (word : UInt32) : Gpu :=
  match Gp0Start.ofWord word with
  | .nop | .clearCache | .unknown => { gpu with phase := .idle }
  | .requestInterrupt => { gpu with phase := .idle, interrupt := true }
  | .polyLine => { gpu with phase := .polyLine }
  | .drawMode => { gpu with phase := .idle, draw := gpu.draw.setMode word }
  | .textureWindow => { gpu with phase := .idle, draw := gpu.draw.setWindow word }
  | .areaTopLeft =>
    { gpu with phase := .idle, draw := { gpu.draw with topLeft := DrawSettings.cornerOf word } }
  | .areaBottomRight =>
    { gpu with
      phase := .idle
      draw := { gpu.draw with bottomRight := DrawSettings.cornerOf word } }
  | .drawOffset => { gpu with phase := .idle, draw := gpu.draw.setOffset word }
  | .maskBits => { gpu with phase := .idle, draw := { gpu.draw with mask := bits word 0 1 } }
  | .collect command length =>
    { gpu with phase := .collecting command #[word] (length - 1) }

/-- Write a word to the drawing port. -/
def gp0 (gpu : Gpu) (word : UInt32) : Gpu :=
  match gpu.phase with
  | .idle | .loading _ _ => gpu.start word
  | .collecting command words remaining =>
    if remaining > 1 then
      { gpu with phase := .collecting command (words.push word) (remaining - 1) }
    else gpu.execute command (words.push word)
  | .polyLine => if endsPolyLine word then { gpu with phase := .idle } else gpu
  | .storing image done =>
    { gpu with
      vram := storePixels image done word gpu.vram
      phase := if done + 2 < image.area then .storing image (done + 2) else .idle }

/-- Everything but video memory and the latch as at power on. -/
def reset (gpu : Gpu) : Gpu :=
  { powerOn with latch := gpu.latch, vram := gpu.vram }

/-- The answer to a question about the settings, if there is one. -/
def info? (gpu : Gpu) (question : UInt32) : Option UInt32 :=
  match question.toNat with
  | 2 => some gpu.draw.packedWindow
  | 3 => some (DrawSettings.packedCorner gpu.draw.topLeft)
  | 4 => some (DrawSettings.packedCorner gpu.draw.bottomRight)
  | 5 => some gpu.draw.packedOffset
  | 7 => some 2
  | _ => none

/-- Latch the answer to a question, or keep the latch. -/
def ask (gpu : Gpu) (question : UInt32) : Gpu :=
  match gpu.info? question with
  | some answer => { gpu with latch := answer }
  | none => gpu

/-- Write a word to the control port. -/
def gp1 (gpu : Gpu) (word : UInt32) : Gpu :=
  match (topByte word).toNat with
  | 0x00 => gpu.reset
  | 0x01 => { gpu with phase := .idle }
  | 0x02 => { gpu with interrupt := false }
  | 0x03 => { gpu with display := { gpu.display with disabled := bit word 0 } }
  | 0x04 =>
    { gpu with
      display := { gpu.display with dmaDirection := GpuDmaDirection.ofNumber (bits word 0 1) } }
  | 0x05 => { gpu with display := gpu.display.setStart word }
  | 0x06 => { gpu with display := gpu.display.setHorizontal word }
  | 0x07 => { gpu with display := gpu.display.setVertical word }
  | 0x08 => { gpu with display := gpu.display.setMode word }
  | opcode => if 0x10 ≤ opcode ∧ opcode ≤ 0x1f then gpu.ask (bits word 0 3) else gpu

end Gpu

end Playstation
