import Mathlib.Data.List.Induction
import Playstation.Proofs.Width

/-!
# Parts of a word

A word can be written at once or by its bytes and halves. A part which is put
into a word replaces the bytes it covers by those of a value and leaves the
others. When every byte has been put in some part, what was there before makes
no difference.
-/

namespace Playstation

open MachineWord

/-- A byte or an aligned half of a word. -/
inductive WordPart where
  /-- Byte number `k`, the lowest first. -/
  | byte (k : Fin 4)
  /-- The lower or the upper half. -/
  | half (k : Fin 2)
  deriving DecidableEq

namespace WordPart

/-- The width of an access to the part. -/
def width : WordPart → Width
  | byte _ => .byte
  | half _ => .half

/-- How many bytes are below the part. -/
def position : WordPart → Nat
  | byte k => k
  | half k => 2 * k

/-- Where the part is relative to its word. -/
def offset (part : WordPart) : UInt32 := UInt32.ofNat part.position

/-- The numbers of the bytes which the part covers. -/
def bytes : WordPart → List Nat
  | byte k => [k]
  | half k => [2 * k, 2 * k + 1]

/-- The part of a value, moved down. -/
def of (part : WordPart) (value : UInt32) : UInt32 := narrow part.width value part.offset

/-- A word in which the part comes from a value. -/
def put (part : WordPart) (value word : UInt32) : UInt32 :=
  merge part.width word (part.of value) part.offset

/-- A word into which parts of a value have been put one after the other. -/
def putAll (parts : List WordPart) (value word : UInt32) : UInt32 :=
  parts.foldl (fun word part => part.put value word) word

/-- Each byte of a word is in one of the parts, and in one only. -/
def Partition (parts : List WordPart) : Prop := (parts.flatMap bytes).Perm (List.range 4)

instance (parts : List WordPart) : Decidable (Partition parts) :=
  inferInstanceAs (Decidable (List.Perm _ _))

variable {part : WordPart} {parts : List WordPart} {value word other : UInt32} {i : Nat}

/-- A part is within its word, at a multiple of its width. -/
theorem position_bounds (part : WordPart) :
    part.position < 4 ∧ part.position % part.width.bytes = 0 := by
  cases part with
  | byte k => exact ⟨k.isLt, Nat.mod_one _⟩
  | half k =>
    have hk := k.isLt
    simp only [position, width, Width.bytes]
    omega

/-- A part is narrower than its word. -/
theorem width_ne_word (part : WordPart) : part.width ≠ .word := by
  cases part <;> exact fun h => nomatch h

/-- The distance of a part from the start of its word. -/
theorem toNat_byteShift_offset (part : WordPart) :
    (byteShift part.offset).toNat = 8 * part.position := by
  have hposition := part.position_bounds.1
  have hlow : (part.offset &&& 3).toNat = part.offset.toNat % 4 := @toNat_and_mask _ 3 2 rfl
  have hoffset : part.offset.toNat = part.position % 2 ^ 32 := UInt32.toNat_ofNat'
  rw [toNat_byteShift, hlow]
  omega

/-- A part covers the bytes from its position on. -/
theorem mem_bytes :
    i ∈ part.bytes ↔ part.position ≤ i ∧ i < part.position + part.width.bytes := by
  cases part with
  | byte k =>
    simp only [bytes, position, width, Width.bytes, List.mem_singleton]
    omega
  | half k =>
    simp only [bytes, position, width, Width.bytes, List.mem_cons, List.not_mem_nil, or_false]
    omega

/-- Each bit of a word into which a part is put comes from the value, if it is
in a byte of the part, or from the word. -/
theorem getLsbD_put (hi : i < 32) :
    (toBits (part.put value word)).getLsbD i =
      if i / 8 ∈ part.bytes then (toBits value).getLsbD i else (toBits word).getLsbD i := by
  have hshift := part.toNat_byteShift_offset
  have hwidth : part.width.bitCount = 8 * part.width.bytes := by cases part <;> rfl
  rw [put, getLsbD_merge part.width_ne_word _ _ _ hi]
  refine if_ctx_congr ?_ (fun hcovered => ?_) fun _ => rfl
  · rw [mem_bytes]
    omega
  · rw [mem_bytes] at hcovered
    rw [of, narrow, getLsbD_and, getLsbD_allOnes,
      getLsbD_shiftRight _ (toNat_byteShift_lt part.offset), decide_eq_true (by omega),
      Bool.and_true, Nat.add_sub_cancel' (by omega)]

/-- The last part is put into what the others have left. -/
theorem putAll_concat (parts : List WordPart) (part : WordPart) (value word : UInt32) :
    putAll (parts ++ [part]) value word = part.put value (putAll parts value word) := by
  rw [putAll, List.foldl_append]
  rfl

/-- The same for parts which are put one after the other. -/
theorem getLsbD_putAll (hi : i < 32) :
    (toBits (putAll parts value word)).getLsbD i =
      if i / 8 ∈ parts.flatMap bytes then (toBits value).getLsbD i
      else (toBits word).getLsbD i := by
  induction parts using List.reverseRecOn with
  | nil => exact (if_neg List.not_mem_nil).symm
  | append_singleton parts part ih =>
    rw [putAll_concat, getLsbD_put hi, ih, List.flatMap_append, List.flatMap_singleton]
    by_cases hlast : i / 8 ∈ part.bytes
    · rw [if_pos hlast, if_pos (List.mem_append_right _ hlast)]
    · rw [if_neg hlast]
      refine if_congr ?_ rfl rfl
      rw [List.mem_append, or_iff_left hlast]

/-- Parts which cover all bytes make up the value. -/
theorem Partition.putAll_eq (h : Partition parts) : putAll parts value word = value := by
  refine eq_of_getLsbD_eq fun i hi => ?_
  have hi : i < 32 := hi
  have hcovered : i / 8 ∈ parts.flatMap bytes := by
    rw [h.mem_iff, List.mem_range]
    omega
  rw [getLsbD_putAll hi, if_pos hcovered]

/-- A byte of the last part is in none of the others. -/
theorem Partition.not_mem_of_last (h : Partition (parts ++ [part])) (hi : i ∈ part.bytes) :
    i ∉ parts.flatMap bytes := by
  have hnodup : ((parts ++ [part]).flatMap bytes).Nodup := h.nodup_iff.mpr List.nodup_range
  rw [List.flatMap_append, List.flatMap_singleton] at hnodup
  exact fun hbefore => (List.nodup_append.mp hnodup).2.2 i hbefore i hi rfl

end WordPart

end Playstation
