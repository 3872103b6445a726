import Playstation.Address
import Playstation.Width

/-!
# The sound processor

The sound processor is a file of 320 halfword registers which plays nothing.
The six low bits of its status register follow its control register. It is
accessed by halfwords; a word is two of them, low half first, and single bytes
are not connected.
-/

namespace Playstation

/-- Number of halfword registers. -/
abbrev spuRegisterCount : Nat := 320

/-- The sound processor. -/
structure Spu where
  /-- The registers in order of their address. -/
  registers : Vector UInt16 spuRegisterCount
  deriving DecidableEq

namespace Spu

/-- Number of the control register. -/
def controlRegister : Nat := 0xd5

/-- Number of the status register. -/
def statusRegister : Nat := 0xd7

/-- Every register is clear at power on. -/
def powerOn : Spu := ⟨Vector.replicate spuRegisterCount 0⟩

/-- Number of the register at an absolute address, if the address is one of
the sound processor. Odd addresses name the register they lie in. -/
def register? (address : UInt32) : Option Nat :=
  (Region.spu.range.offset? address).map fun offset => offset.toNat / 2

/-- The halfword at an absolute address, zero outside the sound processor. -/
def load16 (spu : Spu) (address : UInt32) : UInt16 :=
  match register? address with
  | some register => (spu.registers[register]?).getD 0
  | none => 0

/-- The registers after a halfword has been kept in one of them. -/
def write (spu : Spu) (register : Nat) (value : UInt16) : Spu :=
  let registers := spu.registers.setIfInBounds register value
  if register = controlRegister then
    let status := (registers[statusRegister]?).getD 0
    ⟨registers.setIfInBounds statusRegister (setBits status 0 5 (bits value 0 5))⟩
  else ⟨registers⟩

/-- Store a halfword at an absolute address, ignored outside the sound
processor. -/
def store16 (spu : Spu) (address : UInt32) (value : UInt16) : Spu :=
  match register? address with
  | some register => spu.write register value
  | none => spu

/-- Load a value of a given width. -/
def load (spu : Spu) (w : Width) (address : UInt32) : UInt32 :=
  match w with
  | .byte => 0
  | .half => (spu.load16 address).toUInt32
  | .word => (spu.load16 address).toUInt32 ||| (spu.load16 (address ||| 2)).toUInt32 <<< 16

/-- Store a value of a given width. -/
def store (spu : Spu) (w : Width) (address value : UInt32) : Spu :=
  match w with
  | .byte => spu
  | .half => spu.store16 address value.toUInt16
  | .word => (spu.store16 address value.toUInt16).store16 (address ||| 2) (value >>> 16).toUInt16

end Spu

end Playstation
