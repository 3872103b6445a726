import Mathlib.Data.Nat.Digits.Defs
import Playstation.Memory

/-!
# Bytes of a memory

Every access to a memory is one to its bytes. A store puts the bytes of its
value behind the offset, the lowest first, and leaves the other bytes; a load
makes up a number whose digits are the bytes it finds there, in the same order.
-/

namespace Playstation

/-- Byte number `k` of a word, the lowest first. -/
def wordByte (value : UInt32) (k : Nat) : UInt8 := (value >>> (8 * UInt32.ofNat k)).toUInt8

namespace Bytes

variable {size : Nat}

/-- One byte of a word is put at its place behind an offset. -/
theorem get_set_wordByte (memory : Bytes size) (offset k : Nat) (value : UInt32) {i : Nat}
    (hi : i < size) :
    (memory.set (offset + k) (wordByte value k)).get i =
      if i = offset + k then wordByte value (i - offset) else memory.get i := by
  rw [get_set]
  by_cases h : i = offset + k
  · rw [if_pos ⟨h.symm, h ▸ hi⟩, if_pos h, h, Nat.add_sub_cancel_left]
  · rw [if_neg (fun hc => h hc.1.symm), if_neg h]

/-- A store replaces the bytes which it covers, and leaves the others. -/
theorem get_store (memory : Bytes size) (w : Width) (offset : Nat) (value : UInt32) {i : Nat}
    (hi : i < size) :
    (memory.store w offset value).get i =
      if offset ≤ i ∧ i < offset + w.bytes then wordByte value (i - offset) else memory.get i := by
  have hfirst : value.toUInt8 = wordByte value 0 := by
    rw [wordByte, show 8 * UInt32.ofNat 0 = 0 from rfl, UInt32.shiftRight_zero]
  have hput (memory : Bytes size) (k : Nat) := memory.get_set_wordByte offset k value hi
  have hstart (memory : Bytes size) := hput memory 0
  rw [Nat.add_zero] at hstart
  cases w with
  | byte =>
    have hbytes : Width.byte.bytes = 1 := rfl
    rw [store, hfirst, hstart, hbytes]
    exact if_congr (by omega) rfl rfl
  | half =>
    have hbytes : Width.half.bytes = 2 := rfl
    have hsecond : (value >>> 8).toUInt8 = wordByte value 1 := rfl
    rw [store, hfirst, hsecond, hput, hstart, hbytes]
    repeat' split
    all_goals first | rfl | omega
  | word =>
    have hbytes : Width.word.bytes = 4 := rfl
    have hsecond : (value >>> 8).toUInt8 = wordByte value 1 := rfl
    have hthird : (value >>> 16).toUInt8 = wordByte value 2 := rfl
    have hfourth : (value >>> 24).toUInt8 = wordByte value 3 := rfl
    rw [store, hfirst, hsecond, hthird, hfourth, hput, hput, hput, hstart, hbytes]
    repeat' split
    all_goals first | rfl | omega

/-- A byte is put above a number which is short enough. -/
theorem toNat_or_byte {low : UInt32} (high : UInt8) {n : Nat} (hlow : low.toNat < 2 ^ n)
    (hn : n + 8 ≤ 32) :
    (low ||| high.toUInt32 <<< UInt32.ofNat n).toNat = low.toNat + 2 ^ n * high.toNat := by
  have hhigh := high.toNat_lt
  have hamount : (UInt32.ofNat n).toNat % 32 = n := by
    rw [UInt32.toNat_ofNat']
    omega
  have hfits : high.toNat * 2 ^ n < 2 ^ 32 := by
    calc high.toNat * 2 ^ n < 2 ^ 8 * 2 ^ n := Nat.mul_lt_mul_of_pos_right hhigh (Nat.two_pow_pos n)
      _ = 2 ^ (8 + n) := (Nat.pow_add 2 8 n).symm
      _ ≤ 2 ^ 32 := Nat.pow_le_pow_right (by decide) (by omega)
  rw [UInt32.toNat_or, UInt32.toNat_shiftLeft, hamount, UInt8.toNat_toUInt32,
    Nat.shiftLeft_eq, Nat.mod_eq_of_lt hfits, Nat.or_comm, Nat.mul_comm high.toNat,
    ← Nat.two_pow_add_eq_or_of_lt hlow, Nat.add_comm]

/-- A loaded value is the number whose digits are the bytes, the lowest first. -/
theorem toNat_load (memory : Bytes size) (w : Width) (offset : Nat) :
    (memory.load w offset).toNat =
      Nat.ofDigits 256 ((List.range w.bytes).map fun k => (memory.get (offset + k)).toNat) := by
  have hfirst (x : UInt8) : x.toUInt32.toNat = x.toNat := UInt8.toNat_toUInt32 x
  have hbounds (x : UInt8) : x.toNat < 2 ^ 8 := x.toNat_lt
  have h0 := hbounds (memory.get offset)
  have h1 := hbounds (memory.get (offset + 1))
  have h2 := hbounds (memory.get (offset + 2))
  have hsecond := @toNat_or_byte (memory.get offset).toUInt32 (memory.get (offset + 1)) 8
    (by rw [hfirst]; omega) (by decide)
  have hthird := @toNat_or_byte _ (memory.get (offset + 2)) 16
    (by rw [hsecond, hfirst]; omega) (by decide)
  have hfourth := @toNat_or_byte _ (memory.get (offset + 3)) 24
    (by rw [hthird, hsecond, hfirst]; omega) (by decide)
  cases w with
  | byte =>
    change (memory.get offset).toUInt32.toNat = Nat.ofDigits 256 [(memory.get offset).toNat]
    rw [hfirst, Nat.ofDigits_singleton]
  | half =>
    refine hsecond.trans ?_
    change _ = Nat.ofDigits 256 [(memory.get offset).toNat, (memory.get (offset + 1)).toNat]
    rw [hfirst, Nat.ofDigits_cons, Nat.ofDigits_singleton]
    rfl
  | word =>
    refine hfourth.trans ?_
    change _ = Nat.ofDigits 256 [(memory.get offset).toNat, (memory.get (offset + 1)).toNat,
      (memory.get (offset + 2)).toNat, (memory.get (offset + 3)).toNat]
    rw [hthird, hsecond, hfirst, Nat.ofDigits_cons, Nat.ofDigits_cons, Nat.ofDigits_cons,
      Nat.ofDigits_singleton]
    omega

end Bytes

end Playstation
