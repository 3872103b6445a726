import Playstation.Width

/-!
# Byte memories

A memory is a fixed number of bytes, read and written little endian one width
at a time. Cells past the end read as zero and ignore writes, which keeps
every operation total; `fits` says whether an access stays inside, and a write
which does not fit still changes those of its bytes that lie before the end.
-/

namespace Playstation

/-- A memory of `size` bytes. -/
structure Bytes (size : Nat) where
  /-- The cells in order of their offset. -/
  cells : Vector UInt8 size

namespace Bytes

variable {size : Nat}

/-- The memory whose cells all hold one value. -/
def filled (size : Nat) (value : UInt8) : Bytes size := ⟨Vector.replicate size value⟩

/-- The cell at an offset, or zero past the end. -/
@[inline] def get (memory : Bytes size) (offset : Nat) : UInt8 :=
  if h : offset < size then memory.cells[offset] else 0

/-- Replace the cell at an offset; past the end nothing changes. -/
@[inline] def set (memory : Bytes size) (offset : Nat) (value : UInt8) : Bytes size :=
  ⟨memory.cells.setIfInBounds offset value⟩

/-- Whether an access of width `w` at an offset stays inside the memory. -/
def fits (_ : Bytes size) (w : Width) (offset : Nat) : Bool := offset + w.bytes ≤ size

/-- The little endian value of width `w` at an offset. -/
def load (memory : Bytes size) (w : Width) (offset : Nat) : UInt32 :=
  match w with
  | .byte => (memory.get offset).toUInt32
  | .half => (memory.get offset).toUInt32 ||| (memory.get (offset + 1)).toUInt32 <<< 8
  | .word =>
    (memory.get offset).toUInt32 ||| (memory.get (offset + 1)).toUInt32 <<< 8 |||
      (memory.get (offset + 2)).toUInt32 <<< 16 ||| (memory.get (offset + 3)).toUInt32 <<< 24

/-- Write the low bytes of a value at an offset, the lowest first. -/
def store (memory : Bytes size) (w : Width) (offset : Nat) (value : UInt32) : Bytes size :=
  match w with
  | .byte => memory.set offset value.toUInt8
  | .half =>
    (memory.set offset value.toUInt8).set (offset + 1) (value >>> 8).toUInt8
  | .word =>
    (((memory.set offset value.toUInt8).set (offset + 1) (value >>> 8).toUInt8).set
      (offset + 2) (value >>> 16).toUInt8).set (offset + 3) (value >>> 24).toUInt8

/-- A write is read back at its own offset and nowhere else. -/
theorem get_set (memory : Bytes size) (i j : Nat) (value : UInt8) :
    (memory.set i value).get j = if i = j ∧ i < size then value else memory.get j := by
  unfold get set
  by_cases hj : j < size
  · simp only [hj, dite_true, Vector.getElem_setIfInBounds]
    by_cases h : i = j
    · simp [h, hj]
    · simp [h]
  · by_cases h : i = j
    · subst h
      simp [hj]
    · simp [h, hj]

/-- A filled memory reads as its value everywhere inside. -/
theorem get_filled {value : UInt8} {i : Nat} (h : i < size) :
    (filled size value).get i = value := by
  simp [get, filled, h]

end Bytes

/-- Size of main memory in bytes. -/
abbrev ramSize : Nat := 0x200000

/-- Main memory. -/
abbrev Ram : Type := Bytes ramSize

/-- Main memory holds garbage at power on, made recognizable here. -/
def Ram.powerOn : Ram := Bytes.filled ramSize 0xca

end Playstation
