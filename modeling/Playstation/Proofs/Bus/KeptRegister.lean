import Playstation.Proofs.Bus.Peek
import Playstation.Proofs.WordEnd

/-!
# Kept registers

Nine words of the bus do nothing but keep what is stored in them: the memory control
registers behind the two which hold bases, the RAM size register and the cache control
register. The memory control registers keep each byte that is stored, as main memory
does. The other two do not look at the width or place of a store, which replaces them as a
whole. The main statement says what each of the nine holds after every sequence of
operations on the bus.
-/

namespace Playstation

open MachineWord

/-- A store of a part of a word into the word replaces the bytes of the part, and leaves
the others. -/
theorem wordByte_merge {w : Width} (old value : UInt32) {offset : UInt32} {i : Nat}
    (haligns : w.aligns offset = true) (hi : i < 4) :
    wordByte (merge w old value offset) i =
      if (offset &&& 3).toNat ≤ i ∧ i < (offset &&& 3).toNat + w.bytes then
        wordByte value (i - (offset &&& 3).toNat)
      else wordByte old i := by
  have hshift := toNat_byteShift offset
  have hlow : (offset &&& 3).toNat = offset.toNat % 4 := @toNat_and_mask offset 3 2 rfl
  have hcount : w.bitCount = 8 * w.bytes := by cases w <;> rfl
  by_cases hword : w = .word
  · subst hword
    rw [Width.aligns_iff, Width.bytes] at haligns
    have hstart : (offset &&& 3).toNat = 0 := by omega
    have hinside : (offset &&& 3).toNat ≤ i ∧ i < (offset &&& 3).toNat + Width.word.bytes := by
      rw [hstart, Nat.zero_add]
      exact ⟨Nat.zero_le _, hi⟩
    rw [if_pos hinside, hstart, Nat.sub_zero]
    rfl
  · split
    · next hinside =>
      refine wordByte_congr hi (by omega) fun k hk => ?_
      rw [getLsbD_merge hword _ _ _ (by omega), if_pos (by omega)]
      congr 1
      omega
    · next houtside =>
      refine wordByte_congr hi hi fun k hk => ?_
      rw [getLsbD_merge hword _ _ _ (by omega), if_neg (by omega)]

/-- A load of a whole word sees all of a register. -/
theorem narrow_word {offset : UInt32} (value : UInt32) (h : Width.word.aligns offset = true) :
    narrow .word value offset = value := by
  have hstart : offset &&& 3 = 0 := beq_iff_eq.mp h
  rw [narrow, byteShift, hstart, UInt32.mul_zero, UInt32.shiftRight_zero]
  exact UInt32.and_neg_one

namespace Bus

/-- An observation which every operation sets or leaves shows what has been set last. -/
theorem observe_performAll {α : Type} {observe : Bus → α} {set? : Operation → Option α}
    (h : ∀ bus operation,
      observe (bus.perform operation).1 = (set? operation).getD (observe bus))
    (bus : Bus) (operations : List Operation) :
    observe (bus.performAll operations) =
      (operations.filterMap set?).getLast?.getD (observe bus) :=
  observe_foldl h bus operations

/-- A register which is kept and read back. -/
inductive KeptRegister where
  /-- One of the memory control registers behind the two which hold bases. -/
  | memoryControl (number : Fin 7)
  /-- The RAM size register. -/
  | ramSize
  /-- The cache control register. -/
  | cacheControl

/-- An aligned store into a word. -/
structure WordStore where
  /-- How wide the store is. -/
  width : Width
  /-- Where it goes. -/
  address : UInt32
  /-- What is stored. -/
  value : UInt32
  /-- The address is a multiple of the width. -/
  aligns : width.aligns address = true

namespace WordStore

/-- How many bytes of the word are before the store. -/
def position (store : WordStore) : Nat := (store.address &&& 3).toNat

/-- What is stored in a byte of the word, if the store covers it. -/
def byteAt? (store : WordStore) (i : Nat) : Option UInt8 :=
  if store.position ≤ i ∧ i < store.position + store.width.bytes then
    some (wordByte store.value (i - store.position))
  else none

/-- The byte which was stored last in a byte of the word, or zero if none was. -/
def lastByte (stores : List WordStore) (i : Nat) : UInt8 :=
  (stores.filterMap (·.byteAt? i)).getLast?.getD 0

/-- The value which was stored last, whatever its width and place, or zero. -/
def lastValue (stores : List WordStore) : UInt32 := (stores.getLast?.map value).getD 0

/-- A byte of the last value is the one which was stored there last, if that value was
stored from the lowest byte on and as far as there. -/
theorem wordByte_lastValue {stores : List WordStore} {i : Nat} (hi : i < 4)
    (h : ∀ store ∈ stores.getLast?, store.position = 0 ∧ i < store.width.bytes) :
    wordByte (lastValue stores) i = lastByte stores i := by
  obtain rfl | ⟨earlier, last, rfl⟩ := stores.eq_nil_or_concat
  · have hzero : ∀ i < 4, wordByte 0 i = 0 := by decide
    exact hzero i hi
  · rw [List.concat_eq_append] at h ⊢
    rw [List.getLast?_concat] at h
    obtain ⟨hstart, hcovers⟩ := h last rfl
    have hbyte : last.byteAt? i = some (wordByte last.value i) := by
      rw [byteAt?, hstart, Nat.zero_add, if_pos ⟨Nat.zero_le _, hcovers⟩, Nat.sub_zero]
    rw [lastValue, lastByte, List.getLast?_concat, getLast?_filterMap_concat, hbyte]
    rfl

end WordStore

instance (w : Width) (address place : UInt32) : Decidable (InWord w address place) :=
  decidable_of_iff
    (w.aligns address = true ∧ place.toNat ≤ (physical address).toNat ∧
      (physical address).toNat < place.toNat + 4)
    ⟨fun h => ⟨h.1, h.2.1, h.2.2⟩, fun h => ⟨h.aligns, h.low, h.high⟩⟩

/-- The store into the word at a place which an operation is, if it is one. -/
def Operation.storeTo? (place : UInt32) : Operation → Option WordStore
  | store w address value =>
    if h : InWord w address place then some ⟨w, address, value, h.aligns⟩ else none
  | load _ _ | peek _ _ => none

namespace KeptRegister

/-- The region of the register. -/
def region : KeptRegister → Region
  | memoryControl _ => .memoryControl
  | ramSize => .ramSize
  | cacheControl => .cacheControl

/-- Where the register is. -/
def place : KeptRegister → UInt32
  | memoryControl number => 0x1f801008 + 4 * UInt32.ofNat number
  | ramSize => 0x1f801060
  | cacheControl => 0xfffe0130

/-- Whether the bytes which a store does not cover are kept. -/
def KeepsBytes : KeptRegister → Prop
  | memoryControl _ => True
  | ramSize | cacheControl => False

/-- What is kept in the register. -/
def kept (register : KeptRegister) (bus : Bus) : UInt32 :=
  match register with
  | memoryControl number => bus.memoryControl.registers[number.val + 2]
  | ramSize => bus.ramSize
  | cacheControl => bus.cacheControl

variable {register : KeptRegister} {number : Fin 7} {bus : Bus} {w : Width}
  {address value : UInt32}

/-- The word of a memory control register. -/
theorem inWord_memoryControl_iff :
    InWord w address (memoryControl number).place ↔
      target? w address = some .memoryControl ∧
        (Region.memoryControl.offsetOf (physical address)).toNat / 4 = number.val + 2 := by
  have hplace : (memoryControl number).place.toNat = 0x1f801008 + 4 * number.val := by
    revert number
    decide
  have hnumber := number.isLt
  rw [target?, Option.ite_none_right_eq_some]
  constructor
  · rintro ⟨haligns, hlow, hhigh⟩
    have hregion : Region.find? (physical address) = some .memoryControl := by
      apply Region.find?_of_contains
      rw [AddressRange.contains_iff]
      change 0x1f801000 ≤ _ ∧ _ - 0x1f801000 < 36
      omega
    have hoffset := (Region.toNat_offsetOf (Region.contains_of_find? hregion)).1
    change _ = _ - 0x1f801000 at hoffset
    exact ⟨⟨haligns, hregion⟩, by omega⟩
  · rintro ⟨⟨haligns, hregion⟩, hselects⟩
    obtain ⟨hoffset, hstart, -⟩ := Region.toNat_offsetOf (Region.contains_of_find? hregion)
    change 0x1f801000 ≤ _ at hstart
    change _ = _ - 0x1f801000 at hoffset
    exact ⟨haligns, by omega, by omega⟩

/-- A memory control register is loaded through the offsets of its word. -/
theorem load_selected {offset : UInt32} (h : offset.toNat / 4 = number.val + 2) :
    bus.memoryControl.load offset = (memoryControl number).kept bus := by
  rw [MemoryControl.load, h, Vector.getElem?_eq_getElem (by omega)]
  rfl

/-- Each of the other two registers is a region of its own. -/
theorem inWord_whole_iff (hwhole : ¬register.KeepsBytes) :
    InWord w address register.place ↔ target? w address = some register.region := by
  have hrange : register.region.range.start = register.place ∧
      register.region.range.length.toNat = 4 := by
    cases register with
    | memoryControl number => exact absurd trivial hwhole
    | ramSize | cacheControl => decide
  obtain ⟨hstart, hlength⟩ := hrange
  rw [target?, Option.ite_none_right_eq_some]
  constructor
  · rintro ⟨haligns, hlow, hhigh⟩
    refine ⟨haligns, Region.find?_of_contains ?_⟩
    rw [AddressRange.contains_iff, hstart, hlength]
    omega
  · rintro ⟨haligns, hregion⟩
    have hinside := Region.contains_of_find? hregion
    rw [AddressRange.contains_iff, hstart, hlength] at hinside
    exact ⟨haligns, hinside.1, by omega⟩

/-- A store into the word of a register which keeps its bytes is merged into it. -/
theorem store_merged (hkeeps : register.KeepsBytes) (h : InWord w address register.place) :
    register.kept (bus.store w address value).1 = merge w (register.kept bus) value address ∧
      (bus.store w address value).2 = none := by
  cases register with
  | ramSize | cacheControl => exact hkeeps.elim
  | memoryControl number =>
    obtain ⟨htarget, hselects⟩ := inWord_memoryControl_iff.mp h
    obtain ⟨haligns, hregion⟩ := Option.ite_none_right_eq_some.mp htarget
    have hlow : Region.memoryControl.offsetOf (physical address) &&& 3 = address &&& 3 := by
      obtain ⟨hoffset, hstart, -⟩ := Region.toNat_offsetOf (Region.contains_of_find? hregion)
      change 0x1f801000 ≤ _ at hstart
      change _ = _ - 0x1f801000 at hoffset
      rw [← physical_lowBits address]
      apply UInt32.toNat_inj.mp
      rw [@toNat_and_mask _ 3 2 rfl, @toNat_and_mask _ 3 2 rfl]
      omega
    have hmerge (old : UInt32) :
        merge w old value (Region.memoryControl.offsetOf (physical address)) =
          merge w old value address := by
      simp only [merge, widen, byteShift, hlow]
    rw [store_memoryControl haligns hregion rfl (by omega), load_selected hselects, hmerge]
    simp only [kept, hselects, Vector.getElem_setIfInBounds_self, and_self]

/-- A store into the word of one of the other two replaces the register. -/
theorem store_whole (hwhole : ¬register.KeepsBytes) (h : InWord w address register.place) :
    register.kept (bus.store w address value).1 = value ∧ (bus.store w address value).2 = none := by
  obtain ⟨haligns, hregion⟩ :=
    Option.ite_none_right_eq_some.mp ((inWord_whole_iff hwhole).mp h)
  rw [store_of_region haligns hregion]
  cases register with
  | memoryControl number => exact absurd trivial hwhole
  | ramSize | cacheControl => exact ⟨rfl, rfl⟩

/-- A store to any other place leaves the register. -/
theorem kept_store_of_not (h : ¬InWord w address register.place) :
    register.kept (bus.store w address value).1 = register.kept bus := by
  have hrest (ram : Ram) (dma : Dma) (gpu : Gpu) (spu : Spu) :
      register.kept { bus with ram, dma, gpu, spu } = register.kept bus := by
    cases register <;> rfl
  have htouches := bus.store_touches w address value
  generalize (bus.store w address value).1 = after at htouches ⊢
  rw [StoreTouches] at htouches
  cases htarget : target? w address with
  | none =>
    rw [htarget] at htouches
    rw [htouches]
  | some region =>
    rw [htarget] at htouches
    cases region with
    | ram =>
      obtain ⟨-, ram, rfl, -⟩ := htouches
      exact hrest _ _ _ _
    | gpu | spu =>
      obtain ⟨part, rfl⟩ := htouches
      exact hrest _ _ _ _
    | dma =>
      obtain rfl | ⟨register, dma, -, -, rfl | ⟨port, -, -, hrun⟩⟩ := htouches
      · rfl
      · exact hrest _ _ _ _
      · obtain ⟨ram, gpu, dma, rfl⟩ := hrun.rest
        exact hrest _ _ _ _
    | memoryControl =>
      obtain ⟨control, rfl, hothers⟩ := htouches
      cases register with
      | memoryControl number =>
        exact hothers _ _ fun hselects => h (inWord_memoryControl_iff.mpr ⟨htarget, hselects.symm⟩)
      | ramSize | cacheControl => rfl
    | cacheControl =>
      obtain ⟨value, rfl⟩ := htouches
      cases register with
      | cacheControl => exact absurd ((inWord_whole_iff id).mpr htarget) h
      | memoryControl | ramSize => rfl
    | ramSize =>
      obtain ⟨value, rfl⟩ := htouches
      cases register with
      | ramSize => exact absurd ((inWord_whole_iff id).mpr htarget) h
      | memoryControl | cacheControl => rfl
    | _ => rw [htouches]

/-- An operation leaves the register if it is no store into its word, and does what the
store does if it is one. -/
theorem kept_perform (register : KeptRegister) (bus : Bus) (operation : Operation) :
    register.kept (bus.perform operation).1 =
      match operation.storeTo? register.place with
      | some store => register.kept (bus.store store.width store.address store.value).1
      | none => register.kept bus := by
  cases operation with
  | load w address =>
    rw [perform_load]
    cases register <;> rfl
  | peek w address =>
    rw [perform_peek]
    rfl
  | store w address value =>
    rw [Operation.storeTo?]
    by_cases hword : InWord w address register.place
    · rw [dif_pos hword]
      rfl
    · rw [dif_neg hword]
      exact kept_store_of_not hword

/-- The store which an operation is goes into the word. -/
theorem inWord_of_storeTo? {operation : Operation} {store : WordStore}
    (h : operation.storeTo? register.place = some store) :
    InWord store.width store.address register.place := by
  cases operation with
  | load w address | peek w address => cases h
  | store w address value =>
    obtain ⟨hword, heq⟩ := Option.dite_none_right_eq_some.mp h
    cases heq
    exact hword

/-- After a sequence of operations a register which keeps its bytes holds in each of them
what was stored there last. -/
theorem wordByte_performAll (hkeeps : register.KeepsBytes) (bus : Bus)
    (operations : List Operation) {i : Nat} (hi : i < 4) :
    wordByte (register.kept (bus.performAll operations)) i =
      ((operations.filterMap (Operation.storeTo? register.place)).filterMap
        (·.byteAt? i)).getLast?.getD (wordByte (register.kept bus) i) := by
  rw [List.filterMap_filterMap]
  refine @observe_performAll _ (fun bus => wordByte (register.kept bus) i) _
    (fun bus operation => ?_) bus operations
  rw [kept_perform]
  cases hstore : operation.storeTo? register.place with
  | none => rfl
  | some store =>
    simp only [(store_merged hkeeps (inWord_of_storeTo? hstore)).1]
    rw [wordByte_merge _ _ store.aligns hi, Option.bind_some, WordStore.byteAt?,
      WordStore.position]
    split <;> rfl

/-- After a sequence of operations one of the other two holds the value of the last store
there. -/
theorem kept_performAll (hwhole : ¬register.KeepsBytes) (bus : Bus)
    (operations : List Operation) :
    register.kept (bus.performAll operations) =
      ((operations.filterMap (Operation.storeTo? register.place)).getLast?.map
        WordStore.value).getD (register.kept bus) := by
  rw [← List.getLast?_map, List.map_filterMap]
  refine observe_performAll (fun bus operation => ?_) bus operations
  rw [kept_perform]
  cases hstore : operation.storeTo? register.place with
  | none => rfl
  | some store => exact (store_whole hwhole (inWord_of_storeTo? hstore)).1

/-- A load of the word of the register finds what is kept, and changes nothing. -/
theorem load_word (h : InWord .word address register.place) :
    bus.load .word address = (bus, .ok (register.kept bus)) := by
  have hload {region : Region} (hregion : Region.find? (physical address) = some region)
      (hgpu : region ≠ .gpu) :
      bus.load .word address = (bus, bus.peekRegion .word region (physical address)) := by
    rw [load, notice_of_region hregion hgpu, peek_of_region h.aligns hregion]
  cases register with
  | memoryControl number =>
    obtain ⟨htarget, hselects⟩ := inWord_memoryControl_iff.mp h
    obtain ⟨haligns, hregion⟩ := Option.ite_none_right_eq_some.mp htarget
    have hwords := Region.aligns_offsetOf (.inr rfl) haligns hregion
    rw [hload hregion (by decide), peekRegion]
    simp only [narrow_word _ hwords, load_selected hselects]
  | ramSize | cacheControl =>
    obtain ⟨haligns, hregion⟩ := Option.ite_none_right_eq_some.mp ((inWord_whole_iff id).mp h)
    exact hload hregion (by decide)

/-- At power on the register is zero. -/
theorem kept_powerOn (register : KeptRegister) (bios : Bios) :
    register.kept (powerOn bios) = 0 := by
  cases register with
  | memoryControl number =>
    have hzero : ∀ number : Fin 7, MemoryControl.powerOn.registers[number.val + 2] = 0 := by decide
    exact hzero number
  | ramSize | cacheControl => rfl

end KeptRegister

open WordStore in
/-- After every sequence of operations from power on a load of the word of a kept register
succeeds and changes nothing. A memory control register holds in each byte what was stored
there last through a store of any width, or zero. The RAM size and the cache control
register hold the value of the last store as a whole, or zero. So this is true of those of
their bytes which that store covers, if it begins with the lowest one as a store of the
word does, and of all if there is no store. Every store into one of the words is
accepted. -/
theorem load_kept (bios : Bios) (operations : List Operation) {register : KeptRegister}
    {address : UInt32} (h : InWord .word address register.place) :
    let bus := (powerOn bios).performAll operations
    let stores := operations.filterMap (Operation.storeTo? register.place)
    (∃ value, bus.load .word address = (bus, .ok value) ∧
      (¬register.KeepsBytes → value = lastValue stores) ∧
      ∀ i < 4,
        (register.KeepsBytes ∨
          ∀ store ∈ stores.getLast?, store.position = 0 ∧ i < store.width.bytes) →
        wordByte value i = lastByte stores i) ∧
    ∀ w target value, InWord w target register.place → (bus.store w target value).2 = none := by
  intro bus stores
  have hvalue (hwhole : ¬register.KeepsBytes) : register.kept bus = lastValue stores := by
    rw [KeptRegister.kept_performAll hwhole, KeptRegister.kept_powerOn]
    rfl
  refine ⟨⟨register.kept bus, KeptRegister.load_word h, hvalue, ?_⟩, ?_⟩
  · intro i hi hstores
    by_cases hkeeps : register.KeepsBytes
    · have hzero : ∀ i < 4, wordByte 0 i = 0 := by decide
      rw [KeptRegister.wordByte_performAll hkeeps _ _ hi, KeptRegister.kept_powerOn, hzero i hi]
      rfl
    · rw [hvalue hkeeps]
      exact wordByte_lastValue hi (hstores.resolve_left hkeeps)
  · intro w target value hword
    by_cases hkeeps : register.KeepsBytes
    · exact (KeptRegister.store_merged hkeeps hword).2
    · exact (KeptRegister.store_whole hkeeps hword).2

/-- A byte of the RAM size register is stored, and then all of it through another segment.
The half of a memory control register is stored beside its first byte. -/
theorem load_kept_mixed :
    let operations : List Operation := [.store .byte 0x1f801061 0x12,
      .store .byte 0x1f801010 0xff, .store .word 0xbf801060 0x0b88, .store .half 0x1f801012 0x13]
    let bus := (powerOn (.ofWord 0)).performAll operations
    InWord .word 0x1f801060 KeptRegister.ramSize.place ∧
      InWord .word 0x1f801010 (KeptRegister.memoryControl 2).place ∧
      bus.load .word 0x1f801060 = (bus, .ok 0x0b88) ∧
      bus.load .word 0x1f801010 = (bus, .ok 0x001300ff) := by
  intro operations bus
  have hsize : InWord .word 0x1f801060 KeptRegister.ramSize.place :=
    ⟨by decide, by decide, by decide⟩
  have hcontrol : InWord .word 0x1f801010 (KeptRegister.memoryControl 2).place :=
    ⟨by decide, by decide, by decide⟩
  obtain ⟨⟨size, hloaded, hlast, -⟩, -⟩ := load_kept (.ofWord 0) operations hsize
  obtain ⟨⟨control, hloaded', -, hbytes⟩, -⟩ := load_kept (.ofWord 0) operations hcontrol
  have hvalue : size = 0x0b88 := hlast id
  have hsame : control = 0x001300ff := by
    have hstored : ∀ i < 4, WordStore.lastByte (operations.filterMap
        (Operation.storeTo? (KeptRegister.memoryControl 2).place)) i = wordByte 0x001300ff i := by
      decide
    exact eq_of_wordByte fun i hi => (hbytes i hi (.inl trivial)).trans (hstored i hi)
  rw [hvalue] at hloaded
  rw [hsame] at hloaded'
  exact ⟨hsize, hcontrol, hloaded, hloaded'⟩

/-- A byte of the RAM size register is stored where it is not the lowest one, and a load of
the word finds it in the lowest byte. -/
theorem store_byte_ramSize :
    let operations : List Operation := [.store .byte 0x1f801061 0x12]
    let bus := (powerOn (.ofWord 0)).performAll operations
    let stores := operations.filterMap (Operation.storeTo? KeptRegister.ramSize.place)
    InWord .word 0x1f801060 KeptRegister.ramSize.place ∧
      bus.load .word 0x1f801060 = (bus, .ok 0x12) ∧
      (List.range 4).map (WordStore.lastByte stores) = [0, 0x12, 0, 0] ∧
      ¬∀ i < 4, wordByte 0x12 i = WordStore.lastByte stores i := by
  exact ⟨⟨by decide, by decide, by decide⟩, rfl, by decide, by decide⟩

end Bus

end Playstation
