import Playstation.Bus.Basic
import Playstation.Proofs.Checked.Address

/-!
# Checked device registers

The registers of the sound processor and the memory control registers, with
every index checked. The windows of both are as long as their register files.
-/

namespace Playstation

namespace Spu

/-- Number of the register at an absolute address, if there is one. -/
def checkedRegister (address : UInt32) : Option (Option Nat) := do
  let offset? ← Region.spu.range.checkedOffset address
  return offset?.map fun offset => (offset / 2).toNat

variable (spu : Spu)

/-- The halfword at an absolute address. -/
def checkedLoad16 (address : UInt32) : Option UInt16 := do
  match ← checkedRegister address with
  | some register => spu.registers[register]?
  | none => return 0

/-- Keep a halfword in a register. -/
def checkedWrite (register : Nat) (value : UInt16) : Option Spu := do
  let registers ← checkedSet spu.registers register value
  if register = controlRegister then
    let status ← registers[statusRegister]?
    let mode ← checkedBits value 0 5
    let status ← checkedSetBits status 0 5 mode
    let registers ← checkedSet registers statusRegister status
    return ⟨registers⟩
  else return ⟨registers⟩

/-- Store a halfword at an absolute address. -/
def checkedStore16 (address : UInt32) (value : UInt16) : Option Spu := do
  match ← checkedRegister address with
  | some register => spu.checkedWrite register value
  | none => return spu

/-- Load a value of a given width. -/
def checkedLoad (w : Width) (address : UInt32) : Option UInt32 :=
  match w with
  | .byte => some 0
  | .half => do
    let value ← spu.checkedLoad16 address
    return value.toUInt32
  | .word => do
    let low ← spu.checkedLoad16 address
    let high ← spu.checkedLoad16 (address ||| 2)
    let high ← checkedShiftUp high.toUInt32 16
    return low.toUInt32 ||| high

/-- Store a value of a given width. -/
def checkedStore (w : Width) (address value : UInt32) : Option Spu :=
  match w with
  | .byte => some spu
  | .half => spu.checkedStore16 address value.toUInt16
  | .word => do
    let spu ← spu.checkedStore16 address value.toUInt16
    let high ← checkedBits value 16 31
    spu.checkedStore16 (address ||| 2) high.toUInt16

/-- Every register of the window exists. -/
theorem register?_lt {address : UInt32} {register : Nat}
    (h : register? address = some register) : register < spuRegisterCount := by
  rw [register?, AddressRange.offset?] at h
  cases hcontains : Region.spu.range.contains address with
  | false => simp [hcontains] at h
  | true =>
    simp only [hcontains, if_true, Option.map_some, Option.some.injEq] at h
    obtain ⟨-, -, hlt⟩ := Region.toNat_offsetOf hcontains
    have hoffset : (Region.spu.offsetOf address).toNat / 2 = register := h
    have hlength : Region.spu.range.length.toNat = 640 := rfl
    change register < 320
    omega

/-- Register numbers are found without a difference that is negative. -/
theorem checkedRegister_eq (address : UInt32) :
    checkedRegister address = some (register? address) := by
  rw [checkedRegister, AddressRange.checkedOffset_eq, register?]
  cases Region.spu.range.offset? address with
  | none => rfl
  | some offset => exact congrArg (fun number => some (some number)) (UInt32.toNat_div _ _)

/-- Every halfword can be loaded. -/
theorem checkedLoad16_eq (address : UInt32) :
    spu.checkedLoad16 address = some (spu.load16 address) := by
  rw [checkedLoad16, checkedRegister_eq, load16]
  cases hregister : register? address with
  | none => rfl
  | some register =>
    have hlt := register?_lt hregister
    change spu.registers[register]? = some ((spu.registers[register]?).getD 0)
    rw [Vector.getElem?_eq_getElem hlt, Option.getD_some]

/-- Every register can be written. -/
theorem checkedWrite_eq {register : Nat} (h : register < spuRegisterCount) (value : UInt16) :
    spu.checkedWrite register value = some (spu.write register value) := by
  have hstatus : statusRegister < spuRegisterCount := by decide
  rw [checkedWrite, checkedSet_eq h, write]
  simp only [Option.bind_eq_bind, Option.bind_some]
  split
  · rw [Vector.getElem?_eq_getElem hstatus, checkedBits_eq _ (by decide) (by decide)]
    simp only [Option.bind_some, Option.getD_some]
    rw [checkedSetBits_eq _ _ (by decide) (by decide)]
    simp only [Option.bind_some, checkedSet_eq hstatus]
    rfl
  · rfl

/-- Every halfword can be stored. -/
theorem checkedStore16_eq (address : UInt32) (value : UInt16) :
    spu.checkedStore16 address value = some (spu.store16 address value) := by
  rw [checkedStore16, checkedRegister_eq, store16]
  cases hregister : register? address with
  | none => rfl
  | some register => exact spu.checkedWrite_eq (register?_lt hregister) value

/-- Every value can be loaded. -/
theorem checkedLoad_eq (w : Width) (address : UInt32) :
    spu.checkedLoad w address = some (spu.load w address) := by
  cases w <;> simp only [checkedLoad, checkedLoad16_eq, Option.bind_eq_bind, Option.bind_some] <;>
    rfl

/-- Every value can be stored. -/
theorem checkedStore_eq (w : Width) (address value : UInt32) :
    spu.checkedStore w address value = some (spu.store w address value) := by
  cases w with
  | byte => rfl
  | half => exact spu.checkedStore16_eq address value.toUInt16
  | word =>
    have hhigh : checkedBits value 16 31 = some (value >>> 16) :=
      congrArg some (bits_top value (by decide))
    simp only [checkedStore, checkedStore16_eq, hhigh, Option.bind_eq_bind, Option.bind_some]
    rfl

end Spu

namespace MemoryControl

variable (control : MemoryControl)

/-- The register which holds the byte at an offset. -/
def checkedLoad (offset : UInt32) : Option UInt32 := do
  let number ← checkedShiftDown offset 2
  control.registers[number.toNat]?

/-- Store a register, refused if that would move an expansion window. -/
def checkedStore (offset value : UInt32) : Option (Except BusFault MemoryControl) := do
  let number ← checkedShiftDown offset 2
  if number = 0 ∧ value ≠ Region.expansion1.range.start then
    return .error (.badExpansionBase 1 value)
  else if number = 1 ∧ value ≠ Region.expansion2.range.start then
    return .error (.badExpansionBase 2 value)
  else
    let registers ← checkedSet control.registers number.toNat value
    return .ok ⟨registers⟩

/-- An offset moved down to the number of its register. -/
theorem toNat_number (offset : UInt32) : (offset >>> 2).toNat = offset.toNat / 4 := by
  rw [UInt32.toNat_shiftRight]
  change offset.toNat >>> 2 = _
  rw [Nat.shiftRight_eq_div_pow]

/-- Every register in the window can be loaded. -/
theorem checkedLoad_eq {offset : UInt32} (h : offset.toNat < 36) :
    control.checkedLoad offset = some (control.load offset) := by
  have hnumber : checkedShiftDown offset 2 = some (offset >>> 2) := rfl
  have hlt : offset.toNat / 4 < 9 := by omega
  rw [checkedLoad, hnumber, load]
  simp only [Option.bind_eq_bind, Option.bind_some, toNat_number]
  rw [Vector.getElem?_eq_getElem hlt, Option.getD_some]

/-- Every register in the window can be stored. -/
theorem checkedStore_eq {offset : UInt32} (h : offset.toNat < 36) (value : UInt32) :
    control.checkedStore offset value = some (control.store offset value) := by
  have hnumber : checkedShiftDown offset 2 = some (offset >>> 2) := rfl
  have hzero : offset >>> 2 = 0 ↔ offset.toNat / 4 = 0 := by
    rw [← toNat_number, ← UInt32.toNat_inj]
    rfl
  have hone : offset >>> 2 = 1 ↔ offset.toNat / 4 = 1 := by
    rw [← toNat_number, ← UInt32.toNat_inj]
    rfl
  rw [checkedStore, hnumber, store]
  simp only [Option.bind_eq_bind, Option.bind_some, hzero, hone, toNat_number]
  rw [checkedSet_eq (by omega)]
  split
  · rfl
  · split <;> rfl

end MemoryControl

end Playstation
