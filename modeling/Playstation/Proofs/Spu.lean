import Playstation.Proofs.Checked.Device
import Playstation.Proofs.Field
import Playstation.Proofs.History

/-!
# The registers of the sound processor

The sound processor sees halfwords only. A store of a word is one of its low half and one
of its high half behind it, and a store of a byte is none. Each register keeps the halfword
that was stored there last. The six low bits of the status register are an exception:
a halfword stored in the control register is found there too, so that they belong to
whichever of the two has been stored last.
-/

namespace Playstation

open MachineWord

namespace Spu

/-- Where the control register is. -/
def controlAddress : UInt32 := 0x1f801daa

/-- Where the status register is. -/
def statusAddress : UInt32 := 0x1f801dae

/-- A halfword and where it is stored. -/
structure Halfword where
  /-- The address, which can be odd. -/
  address : UInt32
  /-- The value. -/
  value : UInt16

/-- A store of a byte or a halfword anywhere, or of a word at a multiple of four. -/
structure Store where
  /-- How wide the store is. -/
  width : Width
  /-- Where it goes. -/
  address : UInt32
  /-- What is stored. -/
  value : UInt32
  /-- Words are aligned. -/
  aligns : width = .word → Width.word.aligns address = true

/-- The halfwords which a store puts into registers, in order. -/
def Store.halfwords (store : Store) : List Halfword :=
  match store.width with
  | .byte => []
  | .half => [⟨store.address, store.value.toUInt16⟩]
  | .word =>
    [⟨store.address, store.value.toUInt16⟩, ⟨store.address + 2, (store.value >>> 16).toUInt16⟩]

/-- The sound processor after a sequence of stores. -/
def storeAll (spu : Spu) (stores : List Store) : Spu :=
  stores.foldl (fun spu store => spu.store store.width store.address store.value) spu

/-- Whether two addresses are those of one halfword. -/
def sameHalfword (address other : UInt32) : Bool := address.toNat / 2 == other.toNat / 2

/-- The value of a halfword, if it is stored at one of some places. -/
def Halfword.at? (places : List UInt32) (halfword : Halfword) : Option UInt16 :=
  if places.any (sameHalfword halfword.address) then some halfword.value else none

/-- The halfword which was stored last at one of some places, or zero. -/
def lastStored (history : List Halfword) (places : List UInt32) : UInt16 :=
  (history.filterMap (Halfword.at? places)).getLast?.getD 0

section Registers

variable {address other : UInt32} {register : Nat}

/-- The registers are in a window of 640 bytes, two for each. -/
theorem register?_eq_some_iff :
    register? address = some register ↔
      0x1f801c00 ≤ address.toNat ∧ address.toNat < 0x1f801e80 ∧
        (address.toNat - 0x1f801c00) / 2 = register := by
  have hiff := AddressRange.contains_iff Region.spu.range address
  change _ ↔ 0x1f801c00 ≤ address.toNat ∧ address.toNat - 0x1f801c00 < 640 at hiff
  rw [register?, AddressRange.offset?]
  cases hcontains : Region.spu.range.contains address with
  | false =>
    rw [hcontains] at hiff
    simp only [Bool.false_eq_true, if_false, Option.map_none, reduceCtorEq, false_iff] at hiff ⊢
    omega
  | true =>
    obtain ⟨hlow, hhigh⟩ := hiff.mp hcontains
    have hoffset := (Region.toNat_offsetOf hcontains).1
    change (address - Region.spu.range.start).toNat = address.toNat - 0x1f801c00 at hoffset
    rw [if_pos rfl, Option.map_some, Option.some.injEq, hoffset]
    omega

/-- Outside of the window there is no register. -/
theorem register?_eq_none_iff :
    register? address = none ↔ address.toNat < 0x1f801c00 ∨ 0x1f801e80 ≤ address.toNat := by
  rw [Option.eq_none_iff_forall_ne_some]
  simp only [ne_eq, register?_eq_some_iff, not_and]
  refine ⟨fun h => ?_, fun h => by omega⟩
  have hnone := h ((address.toNat - 0x1f801c00) / 2)
  omega

/-- The addresses of one halfword name one register. -/
theorem register?_congr (h : sameHalfword address other = true) :
    register? address = register? other := by
  have hsame : address.toNat / 2 = other.toNat / 2 := beq_iff_eq.mp h
  apply Option.ext
  intro register
  rw [register?_eq_some_iff, register?_eq_some_iff]
  omega

/-- A halfword is the same through each of its addresses. -/
theorem sameHalfword_congr (h : sameHalfword address other = true) (stored : UInt32) :
    sameHalfword stored address = sameHalfword stored other := by
  rw [sameHalfword, sameHalfword, beq_iff_eq.mp h]

/-- A halfword of the window which is stored goes to the register of its address. -/
theorem sameHalfword_iff (h : register? address = some register) :
    sameHalfword other address = true ↔ register? other = some register := by
  refine ⟨fun hsame => (register?_congr hsame).trans h, fun hother => beq_iff_eq.mpr ?_⟩
  rw [register?_eq_some_iff] at h hother
  omega

end Registers

section Step

variable {spu : Spu} {address : UInt32} {register number : Nat} {value : UInt16}

/-- What is kept in the register of a number. -/
def kept (spu : Spu) (register : Nat) : UInt16 := (spu.registers[register]?).getD 0

/-- A register after another one, or the same, has been replaced. -/
theorem getD_setIfInBounds {registers : Vector UInt16 spuRegisterCount}
    (hnumber : number < spuRegisterCount) :
    ((registers.setIfInBounds number value)[register]?).getD 0 =
      if number = register then value else (registers[register]?).getD 0 := by
  rw [Vector.getElem?_setIfInBounds]
  by_cases hsame : number = register
  · rw [if_pos hsame, if_pos hnumber, if_pos hsame, Option.getD_some]
  · rw [if_neg hsame, if_neg hsame]

/-- A register after a write. The status register follows the control register. -/
theorem kept_write (hnumber : number < spuRegisterCount) (register : Nat) :
    (spu.write number value).kept register =
      if number = register then value
      else if number = controlRegister ∧ register = statusRegister then
        setBits (spu.kept register) 0 5 (bits value 0 5)
      else spu.kept register := by
  have hstatus : statusRegister < spuRegisterCount := by decide
  have hdiffer : controlRegister ≠ statusRegister := by decide
  rw [write]
  by_cases hcontrol : number = controlRegister
  · subst hcontrol
    rw [if_pos rfl, kept, getD_setIfInBounds hstatus, getD_setIfInBounds hnumber, if_neg hdiffer,
      getD_setIfInBounds hnumber]
    by_cases hfollows : register = statusRegister
    · subst hfollows
      rw [if_pos rfl, if_neg hdiffer, if_pos ⟨rfl, rfl⟩, kept]
    · rw [if_neg (Ne.symm hfollows), if_neg (fun h => hfollows h.2 : ¬(_ ∧ _)), kept]
  · rw [if_neg hcontrol, kept, getD_setIfInBounds hnumber, kept]
    simp only [hcontrol, false_and, if_false]

/-- A register is loaded through its addresses. -/
theorem load16_eq (h : register? address = some register) :
    spu.load16 address = spu.kept register := by
  rw [load16, h]
  rfl

/-- A halfword of the window after another one has been stored, or the same. -/
theorem load16_store16 (h : register? address = some register) (halfword : Halfword) :
    (spu.store16 halfword.address halfword.value).load16 address =
      if sameHalfword halfword.address address then halfword.value
      else if sameHalfword halfword.address controlAddress &&
          sameHalfword address statusAddress then
        setBits (spu.load16 address) 0 5 (bits halfword.value 0 5)
      else spu.load16 address := by
  have hcontrol : register? controlAddress = some controlRegister := by decide
  have hstatus : register? statusAddress = some statusRegister := by decide
  simp only [Bool.and_eq_true, sameHalfword_iff h, sameHalfword_iff hcontrol,
    sameHalfword_iff hstatus, load16_eq h, h, Option.some.injEq]
  rw [store16]
  cases hnumber : register? halfword.address with
  | none => simp only [reduceCtorEq, if_false, false_and]
  | some number => simp only [kept_write (register?_lt hnumber), Option.some.injEq]

end Step

section Run

variable {address : UInt32} {register : Nat} {stores : List Store}

/-- Two bytes behind a multiple of four is the upper half of the word. -/
theorem or_two (h : Width.word.aligns address = true) : address ||| 2 = address + 2 := by
  have htwo : (2 : UInt32).toNat = 2 := rfl
  rw [Width.aligns_iff, Width.bytes] at h
  have hbound := address.toNat_lt
  have hor := Nat.two_pow_add_eq_or_of_lt (i := 2) (b := 2) (by decide) (address.toNat / 4)
  apply UInt32.toNat_inj.mp
  rw [UInt32.toNat_or, UInt32.toNat_add, htwo]
  have hmultiple : address.toNat = 2 ^ 2 * (address.toNat / 4) := by omega
  rw [hmultiple, ← hor]
  omega

/-- A sequence of stores is the sequence of its halfwords. -/
theorem storeAll_eq (spu : Spu) (stores : List Store) :
    spu.storeAll stores = (stores.flatMap Store.halfwords).foldl
      (fun spu halfword => spu.store16 halfword.address halfword.value) spu := by
  rw [storeAll, List.foldl_flatMap]
  congr 1
  funext spu store
  obtain ⟨w, address, value, haligns⟩ := store
  cases w with
  | byte | half => rfl
  | word =>
    rw [store, or_two (haligns rfl)]
    rfl

/-- An observation which every halfword sets or leaves shows what has been set last. -/
theorem observe_storeAll {observe : Spu → UInt16} {change : UInt16 → UInt16} {places : List UInt32}
    (hpowerOn : observe powerOn = change 0)
    (h : ∀ spu halfword, observe (spu.store16 halfword.address halfword.value) =
      ((Halfword.at? places halfword).map change).getD (observe spu)) (stores : List Store) :
    observe (powerOn.storeAll stores) =
      change (lastStored (stores.flatMap Store.halfwords) places) := by
  rw [storeAll_eq, observe_foldl h, getLast?_filterMap_map, hpowerOn, Option.getD_map]
  rfl

/-- At power on every register is zero. -/
theorem load16_powerOn (address : UInt32) : powerOn.load16 address = 0 := by
  rw [load16]
  split
  · next register hregister =>
    rw [powerOn, Vector.getElem?_replicate, if_pos (register?_lt hregister), Option.getD_some]
  · rfl

/-- A register which follows no other one holds what was stored there last. -/
theorem load16_storeAll (h : register? address = some register)
    (hown : sameHalfword address statusAddress = false) (stores : List Store) :
    (powerOn.storeAll stores).load16 address =
      lastStored (stores.flatMap Store.halfwords) [address] := by
  refine @observe_storeAll (·.load16 address) id _ (load16_powerOn address) ?_ stores
  intro spu halfword
  simp only [load16_store16 h, hown, Bool.and_false, Bool.false_eq_true, if_false, Halfword.at?,
    List.any_cons, List.any_nil, Bool.or_false, Option.map_id_fun, id]
  split <;> rfl

/-- The upper bits of the status register are those which were stored there last. -/
theorem upperBits_status (h : sameHalfword address statusAddress = true) (stores : List Store) :
    bits ((powerOn.storeAll stores).load16 address) 6 15 =
      bits (lastStored (stores.flatMap Store.halfwords) [statusAddress]) 6 15 := by
  have hstatus : register? statusAddress = some statusRegister := by decide
  refine @observe_storeAll (fun spu => bits (spu.load16 address) 6 15) (bits · 6 15) _
    (congrArg (bits · 6 15) (load16_powerOn address)) ?_ stores
  intro spu halfword
  simp only [load16_store16 ((register?_congr h).trans hstatus), sameHalfword_congr h, h,
    Bool.and_true, Halfword.at?, List.any_cons, List.any_nil, Bool.or_false]
  by_cases hstored : sameHalfword halfword.address statusAddress = true
  · rw [if_pos hstored, if_pos hstored, Option.map_some, Option.getD_some]
  · rw [if_neg hstored, if_neg hstored, Option.map_none, Option.getD_none]
    split
    · exact bits_setBits_disjoint _ _ (by decide) (by decide) (by decide) (by decide) (by decide)
    · rfl

/-- The low bits of the status register are those which were stored last, there or in the
control register. -/
theorem lowBits_status (h : sameHalfword address statusAddress = true) (stores : List Store) :
    bits ((powerOn.storeAll stores).load16 address) 0 5 =
      bits (lastStored (stores.flatMap Store.halfwords) [controlAddress, statusAddress]) 0 5 := by
  have hstatus : register? statusAddress = some statusRegister := by decide
  refine @observe_storeAll (fun spu => bits (spu.load16 address) 0 5) (bits · 0 5) _
    (congrArg (bits · 0 5) (load16_powerOn address)) ?_ stores
  intro spu halfword
  simp only [load16_store16 ((register?_congr h).trans hstatus), sameHalfword_congr h, h,
    Bool.and_true, Halfword.at?, List.any_cons, List.any_nil, Bool.or_false, Bool.or_eq_true]
  by_cases hstored : sameHalfword halfword.address statusAddress = true
  · rw [if_pos hstored, if_pos (Or.inr hstored), Option.map_some, Option.getD_some]
  · simp only [hstored, Bool.false_eq_true, if_false, or_false]
    split
    · rw [bits_setBits_same _ _ (by decide) (by decide), bits_zero_bits _ (by decide),
        Option.map_some, Option.getD_some]
    · rfl

end Run

section Outside

variable {address : UInt32} {w : Width}

/-- The upper half of an aligned word is outside of the window with the lower half. -/
theorem register?_or_two (haligns : Width.word.aligns address = true)
    (h : register? address = none) : register? (address ||| 2) = none := by
  have htwo : (2 : UInt32).toNat = 2 := rfl
  rw [register?_eq_none_iff] at h ⊢
  rw [or_two haligns, UInt32.toNat_add, htwo]
  rw [Width.aligns_iff, Width.bytes] at haligns
  have hbound := address.toNat_lt
  omega

/-- A store outside of the window changes nothing. -/
theorem store_of_outside (haligns : w = .word → Width.word.aligns address = true)
    (h : address.toNat < 0x1f801c00 ∨ 0x1f801e80 ≤ address.toNat) (spu : Spu) (value : UInt32) :
    spu.store w address value = spu := by
  have hnone := register?_eq_none_iff.mpr h
  cases w with
  | byte => rfl
  | half => rw [store, store16, hnone]
  | word => simp only [store, store16, hnone, register?_or_two (haligns rfl) hnone]

/-- An odd address is in the halfword of the even address before it. -/
theorem register?_succ (h : address.toNat % 2 = 0) :
    register? (address + 1) = register? address := by
  have hone : (1 : UInt32).toNat = 1 := rfl
  have hbound := address.toNat_lt
  refine register?_congr (beq_iff_eq.mpr ?_)
  rw [UInt32.toNat_add, hone]
  omega

end Outside

/-- After any stores from power on, each register of the window but the status register is
loaded as the halfword which was stored there last. The status register has its upper bits
from the halfword which was stored there last, and its low bits from the halfword which was
stored last there or in the control register. Bytes, and whatever is stored outside of the
window, change nothing. An aligned word is loaded as its halfwords, and an odd address names
the register of the even address before it. -/
theorem load_storeAll (stores : List Store) :
    let spu := powerOn.storeAll stores
    let history := stores.flatMap Store.halfwords
    (∀ address : UInt32, 0x1f801c00 ≤ address.toNat → address.toNat < 0x1f801e80 →
      sameHalfword address statusAddress = false →
        spu.load .half address = (lastStored history [address]).toUInt32) ∧
    (bits (spu.load16 statusAddress) 6 15 = bits (lastStored history [statusAddress]) 6 15 ∧
      bits (spu.load16 statusAddress) 0 5 =
        bits (lastStored history [controlAddress, statusAddress]) 0 5) ∧
    (∀ address value : UInt32, spu.store .byte address value = spu) ∧
    (∀ (w : Width) (address value : UInt32), (w = .word → Width.word.aligns address = true) →
      address.toNat < 0x1f801c00 ∨ 0x1f801e80 ≤ address.toNat →
        spu.store w address value = spu) ∧
    (∀ address : UInt32, Width.word.aligns address = true →
      spu.load .word address =
        spu.load .half address ||| spu.load .half (address + 2) <<< 16) ∧
    ∀ address : UInt32, address.toNat % 2 = 0 →
      spu.load .half (address + 1) = spu.load .half address ∧
        ∀ value : UInt32, spu.store .half (address + 1) value = spu.store .half address value := by
  intro spu history
  have hself : sameHalfword statusAddress statusAddress = true := by decide
  refine ⟨?registers, ⟨upperBits_status hself stores, lowBits_status hself stores⟩,
    fun _ _ => rfl, ?outside, ?words, ?odd⟩
  case registers =>
    intro address hlow hhigh hown
    have hregister := register?_eq_some_iff.mpr ⟨hlow, hhigh, rfl⟩
    exact congrArg UInt16.toUInt32 (load16_storeAll hregister hown stores)
  case outside => exact fun w address value haligns houtside =>
    store_of_outside haligns houtside spu value
  case words =>
    intro address haligns
    rw [← or_two haligns]
    rfl
  case odd =>
    intro address heven
    have hregister := register?_succ heven
    refine ⟨?_, fun value => ?_⟩
    · rw [load, load16, hregister, load, load16]
    · rw [store, store16, hregister, store, store16]

/-- The upper half of a word is put into the status register, and what is put into the control
register afterwards replaces its low bits. -/
example :
    (powerOn.storeAll [⟨.word, 0x1f801dac, 0xffff1234, fun _ => by decide⟩,
      ⟨.half, controlAddress, 0x0015, nofun⟩]).load16 statusAddress = 0xffd5 := by
  decide +kernel

end Spu

end Playstation
