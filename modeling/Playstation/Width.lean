import Playstation.Bits

/-!
# Widths of memory accesses

The bus is accessed one byte, one halfword or one word at a time. Registers of
devices are 32 bits wide and little endian, so a narrower access touches the
bytes of the register which its address names: a load moves them down, a store
to a command port moves the value up, and a store to a kept register replaces
just these bytes.
-/

namespace Playstation

/-- Number of bytes moved by one access. -/
inductive Width where
  /-- One byte. -/
  | byte
  /-- Two bytes. -/
  | half
  /-- Four bytes. -/
  | word
  deriving DecidableEq, Repr, Inhabited

namespace Width

/-- The width in bytes. -/
def bytes : Width → Nat
  | byte => 1
  | half => 2
  | word => 4

/-- The width in bits. -/
def bitCount : Width → Nat
  | byte => 8
  | half => 16
  | word => 32

/-- The largest value of this width, all of whose bits are set. -/
def allOnes : Width → UInt32
  | byte => 0xff
  | half => 0xffff
  | word => 0xffffffff

/-- Whether an address is a multiple of the width. -/
def aligns (w : Width) (address : UInt32) : Bool :=
  match w with
  | byte => true
  | half => address &&& 1 == 0
  | word => address &&& 3 == 0

end Width

/-- How far the byte at `offset` is from bit zero of its register. -/
def byteShift (offset : UInt32) : UInt32 := 8 * (offset &&& 3)

/-- The part of a register which a load of width `w` at `offset` sees. -/
def narrow (w : Width) (value offset : UInt32) : UInt32 :=
  (value >>> byteShift offset) &&& w.allOnes

/-- A stored value moved to its place in a register. -/
def widen (value offset : UInt32) : UInt32 := value <<< byteShift offset

/-- A register after a store of width `w` at `offset`: the bytes covered come
from `value` and the others stay as they were. -/
def merge (w : Width) (old value offset : UInt32) : UInt32 :=
  match w with
  | .word => value
  | _ =>
    let mask := w.allOnes <<< byteShift offset
    (old &&& ~~~mask) ||| (widen value offset &&& mask)

end Playstation
