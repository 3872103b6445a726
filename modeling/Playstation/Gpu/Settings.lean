import Playstation.Bits

/-!
# Settings of the graphics processor

Everything the graphics processor remembers besides video memory and a command
in progress. The drawing settings are changed by the drawing port, the display
settings by the control port. Both appear, packed, in the status register.
-/

namespace Playstation

/-- Who moves data when the graphics processor asks for DMA. -/
inductive GpuDmaDirection where
  /-- Nobody. -/
  | off
  /-- The command queue. -/
  | fifo
  /-- From main memory to the drawing port. -/
  | cpuToGp0
  /-- From video memory to main memory. -/
  | vramToCpu
  deriving DecidableEq, Repr

namespace GpuDmaDirection

/-- The direction with a two-bit number. -/
def ofNumber (number : UInt32) : GpuDmaDirection :=
  match number.toNat with
  | 0 => off
  | 1 => fifo
  | 2 => cpuToGp0
  | _ => vramToCpu

/-- Number of the direction in the status register. -/
def number : GpuDmaDirection → UInt32
  | off => 0
  | fifo => 1
  | cpuToGp0 => 2
  | vramToCpu => 3

end GpuDmaDirection

/-- Bits of a texel. -/
inductive TexelDepth where
  /-- Four bits, an index into a table of 16 colours. -/
  | four
  /-- Eight bits, an index into a table of 256 colours. -/
  | eight
  /-- Fifteen bits, a colour. -/
  | fifteen
  deriving DecidableEq, Repr

/-- Part of a texture page that repeats, in steps of eight pixels. -/
structure TextureWindow where
  /-- Mask of the horizontal coordinate, five bits. -/
  maskX : UInt32
  /-- Mask of the vertical coordinate, five bits. -/
  maskY : UInt32
  /-- Offset of the horizontal coordinate, five bits. -/
  offsetX : UInt32
  /-- Offset of the vertical coordinate, five bits. -/
  offsetY : UInt32
  deriving DecidableEq

/-- A corner of the drawing area. -/
structure Corner where
  /-- Column, ten bits. -/
  x : UInt32
  /-- Row, nine bits. -/
  y : UInt32
  deriving DecidableEq

/-- Settings which govern drawing into video memory. -/
structure DrawSettings where
  /-- Texture page, blending, texel depth and dithering as they stand in the
  eleven lowest bits of the status register. -/
  mode : UInt32
  /-- Whether textures are ignored. -/
  textureDisabled : Bool
  /-- Whether textured rectangles are mirrored left to right. -/
  flipX : Bool
  /-- Whether textured rectangles are mirrored top to bottom. -/
  flipY : Bool
  /-- The repeating part of the texture page. -/
  window : TextureWindow
  /-- Top left corner of the drawing area, inside. -/
  topLeft : Corner
  /-- Bottom right corner of the drawing area, inside. -/
  bottomRight : Corner
  /-- Horizontal distance added to every vertex. -/
  offsetX : Int
  /-- Vertical distance added to every vertex. -/
  offsetY : Int
  /-- Whether drawing sets and respects the mask bit of pixels, two bits. -/
  mask : UInt32
  deriving DecidableEq

namespace DrawSettings

/-- Every drawing setting clear. -/
def powerOn : DrawSettings where
  mode := 0
  textureDisabled := false
  flipX := false
  flipY := false
  window := ⟨0, 0, 0, 0⟩
  topLeft := ⟨0, 0⟩
  bottomRight := ⟨0, 0⟩
  offsetX := 0
  offsetY := 0
  mask := 0

/-- Column where the texture page begins. -/
def texturePageX (settings : DrawSettings) : UInt32 := bits settings.mode 0 3 * 64

/-- Row where the texture page begins. -/
def texturePageY (settings : DrawSettings) : UInt32 := bits settings.mode 4 4 * 256

/-- Bits of a texel. The reserved number behaves like fifteen. -/
def texelDepth (settings : DrawSettings) : TexelDepth :=
  match (bits settings.mode 7 8).toNat with
  | 0 => .four
  | 1 => .eight
  | _ => .fifteen

/-- Take the draw mode from a command word. -/
def setMode (settings : DrawSettings) (word : UInt32) : DrawSettings :=
  { settings with
    mode := bits word 0 10
    textureDisabled := bit word 11
    flipX := bit word 12
    flipY := bit word 13 }

/-- Take the texture window from a command word. -/
def setWindow (settings : DrawSettings) (word : UInt32) : DrawSettings :=
  { settings with
    window := ⟨bits word 0 4, bits word 5 9, bits word 10 14, bits word 15 19⟩ }

/-- The corner packed into a command word. -/
def cornerOf (word : UInt32) : Corner := ⟨bits word 0 9, bits word 10 18⟩

/-- The eleven-bit two's complement number that a field stands for. -/
def signedField (field : UInt32) : Int := Int.bmod field.toNat 2048

/-- Take the drawing offset from a command word. -/
def setOffset (settings : DrawSettings) (word : UInt32) : DrawSettings :=
  { settings with
    offsetX := signedField (bits word 0 10)
    offsetY := signedField (bits word 11 21) }

/-- The texture window packed as in its command word. -/
def packedWindow (settings : DrawSettings) : UInt32 :=
  settings.window.maskX ||| settings.window.maskY <<< 5 ||| settings.window.offsetX <<< 10 |||
    settings.window.offsetY <<< 15

/-- A corner packed as in its command word. -/
def packedCorner (corner : Corner) : UInt32 := corner.x ||| corner.y <<< 10

/-- The eleven-bit two's complement field of a number. -/
def fieldOf (value : Int) : UInt32 := (value % 2048).toNat.toUInt32

/-- The drawing offset packed as in its command word. -/
def packedOffset (settings : DrawSettings) : UInt32 :=
  fieldOf settings.offsetX ||| fieldOf settings.offsetY <<< 11

end DrawSettings

/-- Settings which govern what is shown on the screen. -/
structure DisplaySettings where
  /-- Column of video memory shown at the left. -/
  startX : UInt32
  /-- Row of video memory shown at the top. -/
  startY : UInt32
  /-- First and last video clock of a line. -/
  horizontal : UInt32 × UInt32
  /-- First and last line of a frame. -/
  vertical : UInt32 × UInt32
  /-- Resolution, video standard, colour depth, interlacing and mirroring as
  they stand in the eight lowest bits of the command that sets them. -/
  mode : UInt32
  /-- Whether the screen is dark. -/
  disabled : Bool
  /-- Who moves data when DMA is asked for. -/
  dmaDirection : GpuDmaDirection
  deriving DecidableEq

namespace DisplaySettings

/-- The standard picture, dark. -/
def powerOn : DisplaySettings where
  startX := 0
  startY := 0
  horizontal := (0x200, 0xc00)
  vertical := (0x10, 0x100)
  mode := 0
  disabled := true
  dmaDirection := .off

/-- Take the start of the displayed part from a command word. -/
def setStart (settings : DisplaySettings) (word : UInt32) : DisplaySettings :=
  { settings with startX := bits word 0 9, startY := bits word 10 18 }

/-- Take the horizontal range from a command word. -/
def setHorizontal (settings : DisplaySettings) (word : UInt32) : DisplaySettings :=
  { settings with horizontal := (bits word 0 11, bits word 12 23) }

/-- Take the vertical range from a command word. -/
def setVertical (settings : DisplaySettings) (word : UInt32) : DisplaySettings :=
  { settings with vertical := (bits word 0 9, bits word 10 19) }

/-- Take the display mode from a command word. -/
def setMode (settings : DisplaySettings) (word : UInt32) : DisplaySettings :=
  { settings with mode := bits word 0 7 }

end DisplaySettings

end Playstation
