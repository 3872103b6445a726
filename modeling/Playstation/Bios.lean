import Playstation.Memory
import Playstation.File

/-!
# Boot ROM images

A boot ROM is an image of exactly 512 KiB together with the path it was read
from and the name it goes by, the last part of that path.
-/

namespace Playstation

/-- Size of a boot ROM image in bytes. -/
abbrev biosSize : Nat := 0x80000

/-- A boot ROM. -/
structure Bios where
  /-- The image. -/
  image : Bytes biosSize
  /-- Where the image was found. -/
  path : String
  /-- What the image is called. -/
  name : String

/-- Why there is no boot ROM. -/
inductive BiosFault where
  /-- The file could not be read. -/
  | unreadable (fault : FileFault)
  /-- The image has the wrong number of bytes. -/
  | invalidSize (size : Nat)
  deriving DecidableEq

/-- The text of a fault. -/
def BiosFault.message : BiosFault → String
  | unreadable fault => s!"failed to load BIOS: {fault.message}"
  | invalidSize size => s!"invalid BIOS file: must be 512 kb, is {size} bytes"

namespace Bios

/-- The boot ROM with the given contents, refused unless it has the right
size. -/
def ofBytes (data : Array UInt8) (path name : String) : Except BiosFault Bios :=
  if h : data.size = biosSize then .ok ⟨⟨⟨data, h⟩⟩, path, name⟩
  else .error (.invalidSize data.size)

/-- The boot ROM at a path, given what reading the file there gave. -/
def ofFile (path : String) (contents : Except FileFault ByteArray) : Except BiosFault Bios :=
  match contents with
  | .ok data => ofBytes data.data path (Path.fileName path)
  | .error fault => .error (.unreadable fault)

end Bios

end Playstation
