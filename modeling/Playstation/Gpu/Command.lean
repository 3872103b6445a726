import Playstation.Bits
import Playstation.Gpu.Vram

/-!
# Commands of the drawing port

The top byte of the first word of a command selects what it does. Some
commands are complete with that word, others are followed by a number of
parameter words known from the top byte alone, and a poly-line ends only with
a terminator word.
-/

namespace Playstation

/-- Commands which are followed by parameter words. -/
inductive Gp0Command where
  /-- Fill a rectangle with one colour. -/
  | fillRect
  /-- Triangle or quadrilateral. -/
  | polygon
  /-- Single line. -/
  | line
  /-- Rectangle. -/
  | rect
  /-- Copy within video memory. -/
  | vramToVram
  /-- Image from the processor into video memory. -/
  | cpuToVram
  /-- Image from video memory to the processor. -/
  | vramToCpu
  deriving DecidableEq, Repr

/-- The name used in messages. -/
def Gp0Command.name : Gp0Command → String
  | fillRect => "FillRect"
  | polygon => "Polygon"
  | line => "Line"
  | rect => "Rect"
  | vramToVram => "VramToVram"
  | cpuToVram => "CpuToVram"
  | vramToCpu => "VramToCpu"

/-- What the first word of a command asks for. -/
inductive Gp0Start where
  /-- Nothing. -/
  | nop
  /-- Forget cached texels. -/
  | clearCache
  /-- Raise the interrupt flag. -/
  | requestInterrupt
  /-- Lines through any number of vertices. -/
  | polyLine
  /-- Draw mode. -/
  | drawMode
  /-- Texture window. -/
  | textureWindow
  /-- Top left corner of the drawing area. -/
  | areaTopLeft
  /-- Bottom right corner of the drawing area. -/
  | areaBottomRight
  /-- Drawing offset. -/
  | drawOffset
  /-- Mask bits. -/
  | maskBits
  /-- A command of `length` words in all, the first included. -/
  | collect (command : Gp0Command) (length : Nat)
  /-- No command has this top byte. -/
  | unknown
  deriving DecidableEq

/-- Words of a polygon command. Each vertex has a position, a texture
coordinate if textured and a colour if shaded, but the colour of the first
vertex is in the command word. -/
def polygonLength (opcode : UInt32) : Nat :=
  let vertices := if bit opcode 3 then 4 else 3
  let perVertex := if bit opcode 2 then 2 else 1
  let colours := if bit opcode 4 then vertices - 1 else 0
  1 + vertices * perVertex + colours

/-- Words of a line command: two vertices, the second with a colour of its own
if shaded. -/
def lineLength (opcode : UInt32) : Nat := if bit opcode 4 then 4 else 3

/-- Words of a rectangle command. It has a texture coordinate if textured, and
its size is in a word of its own unless it is one of the fixed sizes. -/
def rectLength (opcode : UInt32) : Nat :=
  2 + (if bit opcode 2 then 1 else 0) + (if bits opcode 3 4 = 0 then 1 else 0)

/-- The top byte of a word. -/
def topByte (word : UInt32) : UInt32 := bits word 24 31

/-- What a word asks for when it starts a command. -/
def Gp0Start.ofWord (word : UInt32) : Gp0Start :=
  let opcode := topByte word
  if opcode < 0x20 then
    match opcode.toNat with
    | 0x00 => .nop
    | 0x01 => .clearCache
    | 0x02 => .collect .fillRect 3
    | 0x1f => .requestInterrupt
    | _ => .unknown
  else if opcode < 0x40 then .collect .polygon (polygonLength opcode)
  else if opcode < 0x60 then
    if bit opcode 3 then .polyLine else .collect .line (lineLength opcode)
  else if opcode < 0x80 then .collect .rect (rectLength opcode)
  else if opcode < 0xa0 then .collect .vramToVram 4
  else if opcode < 0xc0 then .collect .cpuToVram 3
  else if opcode < 0xe0 then .collect .vramToCpu 3
  else
    match opcode.toNat with
    | 0xe1 => .drawMode
    | 0xe2 => .textureWindow
    | 0xe3 => .areaTopLeft
    | 0xe4 => .areaBottomRight
    | 0xe5 => .drawOffset
    | 0xe6 => .maskBits
    | _ => .unknown

/-- Whether a word ends a poly-line. -/
def endsPolyLine (word : UInt32) : Bool := word &&& 0xf000f000 == 0x50005000

/-- The rectangle of an image transfer, from its position and size words. A
size of zero stands for the most, and larger sizes wrap. -/
def Rect.ofImageWords (position size : UInt32) : Rect where
  left := (position &&& 0x3ff).toNat
  top := (bits position 16 31 &&& 0x1ff).toNat
  width := ((bits size 0 15 - 1) &&& 0x3ff).toNat + 1
  height := ((bits size 16 31 - 1) &&& 0x1ff).toNat + 1

/-- The rectangle of a fill, from its position and size words. The left edge
is rounded down and the width rounded up to a multiple of sixteen, and a size
of zero is empty. -/
def Rect.ofFillWords (position size : UInt32) : Rect where
  left := (position &&& 0x3f0).toNat
  top := ((position >>> 16) &&& 0x1ff).toNat
  width := (((size &&& 0x3ff) + 0xf) &&& 0xfffffff0).toNat
  height := ((size >>> 16) &&& 0x1ff).toNat

/-- The pixel of a 24-bit colour: the five top bits of each part, red in the
lowest place, with the mask bit clear. -/
def pixelOfColour (colour : UInt32) : UInt16 :=
  (bits colour 3 7 ||| bits colour 11 15 <<< 5 ||| bits colour 19 23 <<< 10).toUInt16

end Playstation
