import Mathlib.Data.List.Induction
import Playstation.Proofs.Bytes
import Playstation.Proofs.Dma.Extent
import Playstation.Proofs.Dma.Transfer
import Playstation.Proofs.Segment

/-!
# Main memory as an array of bytes

Main memory is one array of bytes, whichever of the three segments it is
addressed through and however wide the accesses are. The main statement is that
a load finds, byte by byte, what was last stored there through any of the
segments. Only the ordering table is written by anything else than a store to
main memory.
-/

namespace Playstation

/-- An access has one, two or four bytes. -/
theorem Width.bytes_cases (w : Width) : w.bytes = 1 ∨ w.bytes = 2 ∨ w.bytes = 4 := by
  cases w <;> decide

namespace Bus

/-- The byte which an operation stores at an offset of main memory, through
whichever segment, if it stores one there. -/
def Operation.byteAt? (operation : Operation) (offset : Nat) : Option UInt8 :=
  match operation with
  | .store w address value =>
    ((List.range w.bytes).find? fun k =>
      Segment.all.any fun segment => address + UInt32.ofNat k == segment.address offset).map
        (wordByte value)
  | .load _ _ | .peek _ _ => none

namespace Access

/-- The byte which is stored at an offset of main memory, unless the operation
is refused. -/
def byteAt? (access : Access) (offset : Nat) : Option UInt8 :=
  match access.fault? with
  | none => access.operation.byteAt? offset
  | some _ => none

/-- Whether the operation is a store which starts the transfer of the channel of
a port. -/
def StartsTransfer (access : Access) (port : Port) : Prop :=
  ∃ w address value dma, access.operation = .store w address value ∧
    access.bus.Starts w address value port dma

end Access

/-- The byte which a history has left at an offset of main memory: the one that
was stored there last, or what main memory is filled with. -/
def heldByte (history : List Access) (offset : Nat) : UInt8 :=
  (history.filterMap (·.byteAt? offset)).getLast?.getD 0xca

variable {bus : Bus} {w : Width} {address value : UInt32} {offset : Nat}

/-- Byte number `k` of an aligned access is at an offset of main memory, in one
of the segments, exactly if the access goes to main memory and the byte is that
far behind the place where it goes. -/
theorem covers_iff (haligns : w.aligns address = true) {k : Nat} (hk : k < w.bytes)
    (hoffset : offset < Playstation.ramSize) :
    (∃ segment : Segment, address + UInt32.ofNat k = segment.address offset) ↔
      Region.find? (physical address) = some .ram ∧ (physical address).toNat + k = offset := by
  have hfits : offset < 0x20000000 := Nat.lt_trans hoffset (by decide)
  rw [Width.aligns_iff] at haligns
  constructor
  · rintro ⟨segment, heq⟩
    -- An aligned access does not leave the word it is in.
    have haddress := address.toNat_lt
    have hsum := congrArg UInt32.toNat heq
    rw [segment.toNat_address hfits, UInt32.toNat_add, UInt32.toNat_ofNat'] at hsum
    have hbase : segment.base.toNat % 4 = 0 := by
      cases segment <;> decide
    have hle : k ≤ offset := by
      rcases w.bytes_cases with h | h | h <;> rw [h] at hk haligns <;> omega
    have hplace : address = segment.address (offset - k) := by
      apply UInt32.toNat_inj.mp
      rw [segment.toNat_address (by omega)]
      rcases w.bytes_cases with h | h | h <;> rw [h] at hk haligns <;> omega
    rw [hplace, segment.find?_address (by omega), segment.toNat_physical_address (by omega)]
    exact ⟨rfl, by omega⟩
  · rintro ⟨hregion, rfl⟩
    obtain ⟨-, segment, hplace⟩ := Segment.exists_address hregion
    refine ⟨segment, ?_⟩
    rw [Segment.address, UInt32.ofNat_add, ← UInt32.add_assoc]
    exact congrArg (· + UInt32.ofNat k) hplace

/-- A store to main memory stores the bytes of its value from its place on, and
other stores none. -/
theorem byteAt?_store (haligns : w.aligns address = true)
    (hoffset : offset < Playstation.ramSize) :
    (Operation.store w address value).byteAt? offset =
      if Region.find? (physical address) = some .ram ∧
          (physical address).toNat ≤ offset ∧ offset < (physical address).toNat + w.bytes then
        some (wordByte value (offset - (physical address).toNat))
      else none := by
  rw [Operation.byteAt?]
  cases hfind : (List.range w.bytes).find? fun k =>
      Segment.all.any fun segment => address + UInt32.ofNat k == segment.address offset with
  | none =>
    have hmissed := List.find?_eq_none.mp hfind
    refine (if_neg ?_).symm
    rintro ⟨hregion, hle, hlt⟩
    obtain ⟨segment, hplace⟩ := (covers_iff haligns
      (show offset - (physical address).toNat < w.bytes by omega) hoffset).mpr
        ⟨hregion, by omega⟩
    exact hmissed _ (List.mem_range.mpr (by omega))
      (List.any_eq_true.mpr ⟨segment, segment.mem_all, beq_iff_eq.mpr hplace⟩)
  | some k =>
    have hk : k < w.bytes := List.mem_range.mp (List.mem_of_find?_eq_some hfind)
    have hcovers := List.find?_some hfind
    obtain ⟨segment, -, hplace⟩ := List.any_eq_true.mp hcovers
    obtain ⟨hregion, rfl⟩ :=
      (covers_iff haligns hk hoffset).mp ⟨segment, beq_iff_eq.mp hplace⟩
    rw [if_pos ⟨hregion, Nat.le_add_right _ _, Nat.add_lt_add_left hk _⟩,
      Nat.add_sub_cancel_left]
    rfl

/-- A store to another region leaves main memory, unless it starts the transfer
of the ordering table. -/
theorem store_ram (hregion : Region.find? (physical address) ≠ some .ram)
    (hquiet : ∀ dma, ¬bus.Starts w address value .otc dma) :
    (bus.store w address value).1.ram = bus.ram := by
  by_cases haligns : w.aligns address = true
  · cases hfind : Region.find? (physical address) with
    | none =>
      rw [store, if_pos haligns, hfind]
    | some region =>
      cases region with
      | ram => exact absurd hfind hregion
      | dma =>
        rw [store_of_dma haligns hfind]
        cases hregister : DmaRegister.ofOffset?
            (Region.dma.offsetOf (physical address) &&& 0xfffffffc) with
        | none => rw [storeDma_of_no_register hregister]
        | some register =>
          obtain ⟨number, hrefused⟩ | ⟨word, dma, hword, hwrite, hstore⟩ :=
            @storeDma_cases bus w (Region.dma.offsetOf (physical address)) value register hregister
          · rw [hrefused]
          · rw [hstore]
            cases hready : dma.ready? register with
            | none => rfl
            | some port =>
              obtain ⟨hport, hactive⟩ := Option.filter_eq_some_iff.mp hready
              have hother : port ≠ .otc := by
                rintro rfl
                exact hquiet dma
                  ⟨haligns, hfind, ⟨register, word, hregister, hport, hword, hwrite⟩, hactive⟩
              exact (touches_transfer _ port).ram hother
      | memoryControl =>
        rw [store_of_region haligns hfind, storeRegion]
        split <;> rfl
      | _ =>
        rw [store_of_region haligns hfind]
        rfl
  · rw [store, if_neg haligns]

/-- A store to main memory puts the bytes of its value there. -/
theorem store_of_ram (haligns : w.aligns address = true)
    (hregion : Region.find? (physical address) = some .ram) :
    bus.store w address value =
      ({ bus with ram := bus.ram.store w (physical address).toNat value }, none) := by
  have hstart : Region.ram.offsetOf (physical address) = physical address := UInt32.sub_zero _
  rw [store_of_region haligns hregion, storeRegion, hstart]

/-- An operation replaces the bytes it stores in main memory and leaves the
others, unless it starts the transfer of the ordering table. -/
theorem Access.ram_after (access : Access) (hquiet : ¬access.StartsTransfer .otc)
    (hoffset : offset < Playstation.ramSize) :
    access.after.ram.get offset = (access.byteAt? offset).getD (access.bus.ram.get offset) := by
  rcases access with ⟨bus, operation⟩
  cases operation with
  | load w address =>
    have hnone : byteAt? ⟨bus, .load w address⟩ offset = none := by
      rw [byteAt?]
      split <;> rfl
    rw [hnone, after, perform_load]
    rfl
  | peek w address =>
    have hnone : byteAt? ⟨bus, .peek w address⟩ offset = none := by
      rw [byteAt?]
      split <;> rfl
    rw [hnone, after, perform_peek]
    rfl
  | store w address value =>
    have hafter : after ⟨bus, .store w address value⟩ = (bus.store w address value).1 := rfl
    have hfault : fault? ⟨bus, .store w address value⟩ = (bus.store w address value).2 := rfl
    have hstarts : ∀ dma, ¬bus.Starts w address value .otc dma :=
      fun dma h => hquiet ⟨w, address, value, dma, rfl, h⟩
    by_cases haligns : w.aligns address = true
    · by_cases hregion : Region.find? (physical address) = some .ram
      · rw [byteAt?, hfault, hafter, store_of_ram haligns hregion]
        simp only [byteAt?_store haligns hoffset, hregion, true_and,
          Bytes.get_store _ _ _ _ hoffset]
        split <;> rfl
      · have hnone : byteAt? ⟨bus, .store w address value⟩ offset = none := by
          rw [byteAt?]
          split
          · exact (byteAt?_store haligns hoffset).trans (if_neg fun h => hregion h.1)
          · rfl
        rw [hnone, hafter, store_ram hregion hstarts]
        rfl
    · rw [byteAt?, hfault, hafter, store, if_neg haligns]
      rfl

/-- A sequence of operations which never clears the ordering table leaves in
main memory what its accesses have stored there last. -/
theorem get_performAll {operations : List Operation}
    (hquiet : ∀ access ∈ bus.accesses operations, ¬access.StartsTransfer .otc)
    (hoffset : offset < Playstation.ramSize) :
    (bus.performAll operations).ram.get offset =
      ((bus.accesses operations).filterMap (·.byteAt? offset)).getLast?.getD
        (bus.ram.get offset) := by
  -- From the back: the last operation stores a byte at the offset, or leaves it.
  induction operations using List.reverseRecOn with
  | nil => rfl
  | append_singleton operations operation ih =>
    rw [accesses_concat] at hquiet ⊢
    have hlast := hquiet _ (List.mem_append_right _ (List.mem_singleton_self _))
    have hbefore := ih fun access haccess => hquiet access (List.mem_append_left _ haccess)
    rw [performAll_concat, Access.ram_after _ hlast hoffset, hbefore, List.filterMap_append]
    cases hbyte : Access.byteAt? ⟨bus.performAll operations, operation⟩ offset with
    | none =>
      have hkept : [(⟨bus.performAll operations, operation⟩ : Access)].filterMap
          (·.byteAt? offset) = [] := List.filterMap_cons_none hbyte
      rw [hkept, List.append_nil]
      rfl
    | some byte =>
      have hput : [(⟨bus.performAll operations, operation⟩ : Access)].filterMap
          (·.byteAt? offset) = [byte] := List.filterMap_cons_some hbyte
      rw [hput, List.getLast?_concat]
      rfl

/-- A peek at main memory shows the value there. -/
theorem peek_of_ram (haligns : w.aligns address = true)
    (hregion : Region.find? (physical address) = some .ram) :
    bus.peek w address = .ok (bus.ram.load w (physical address).toNat) := by
  have hstart : Region.ram.offsetOf (physical address) = physical address := UInt32.sub_zero _
  rw [peek_of_region haligns hregion, peekRegion, hstart]

/-- A load from main memory finds the value there and changes nothing. -/
theorem load_of_ram (haligns : w.aligns address = true)
    (hregion : Region.find? (physical address) = some .ram) :
    bus.load w address = (bus, .ok (bus.ram.load w (physical address).toNat)) := by
  have hbus : bus.notice w address = bus := notice_of_region hregion (by decide)
  rw [load, hbus, peek_of_ram haligns hregion]

/-- What a load from main memory finds after a sequence of operations from power
on, byte by byte. -/
theorem get_ram_powerOn (bios : Bios) {operations : List Operation}
    (hquiet : ∀ access ∈ (powerOn bios).accesses operations, ¬access.StartsTransfer .otc)
    (hoffset : offset < Playstation.ramSize) :
    ((powerOn bios).performAll operations).ram.get offset =
      heldByte ((powerOn bios).accesses operations) offset := by
  rw [get_performAll hquiet hoffset, heldByte]
  exact congrArg _ (Bytes.get_filled hoffset)

/-- An aligned access which begins in main memory ends there. -/
theorem fits_ram (segment : Segment) (hoffset : offset < Playstation.ramSize)
    (haligns : w.aligns (segment.address offset) = true) :
    offset + w.bytes ≤ Playstation.ramSize := by
  have hbase : segment.base.toNat % 4 = 0 := by
    cases segment <;> decide
  rw [Width.aligns_iff, segment.toNat_address (Nat.lt_trans hoffset (by decide))] at haligns
  unfold Playstation.ramSize at hoffset ⊢
  rcases w.bytes_cases with h | h | h <;> rw [h] at haligns ⊢ <;> omega

/-- After every sequence of operations from power on which never clears the
ordering table, a byte of main memory is the one which was stored there last,
through whichever segment, and the filling of main memory if there is none.
Each segment shows it, a store to another region leaves it, and a wider load
makes up the number whose digits are the bytes. -/
theorem load_holds_last (bios : Bios) (operations : List Operation)
    (hquiet : ∀ access ∈ (powerOn bios).accesses operations, ¬access.StartsTransfer .otc) :
    let bus := (powerOn bios).performAll operations
    let history := (powerOn bios).accesses operations
    (∀ (segment : Segment) (offset : Nat), offset < Playstation.ramSize →
      bus.load .byte (segment.address offset) =
        (bus, .ok (heldByte history offset).toUInt32)) ∧
    (∀ access ∈ history, ∀ w address value, access.operation = .store w address value →
      Region.find? (physical address) ≠ some .ram → access.after.ram = access.bus.ram) ∧
    (∀ (segment : Segment) (w : Width) (offset : Nat), offset < Playstation.ramSize →
      w.aligns (segment.address offset) = true →
      ∃ value, bus.load w (segment.address offset) = (bus, .ok value) ∧
        value.toNat = Nat.ofDigits 256
          ((List.range w.bytes).map fun k => (heldByte history (offset + k)).toNat)) := by
  intro bus history
  have hload (segment : Segment) {w : Width} {offset : Nat}
      (hoffset : offset < Playstation.ramSize)
      (haligns : w.aligns (segment.address offset) = true) :
      bus.load w (segment.address offset) = (bus, .ok (bus.ram.load w offset)) := by
    rw [load_of_ram haligns (segment.find?_address hoffset),
      segment.toNat_physical_address (Nat.lt_trans hoffset (by decide))]
  refine ⟨?_, ?_, ?_⟩
  · intro segment offset hoffset
    rw [hload segment hoffset (rfl), Bytes.load,
      get_ram_powerOn bios hquiet hoffset]
  · intro access haccess w address value hoperation hregion
    have hafter : access.after = (access.bus.store w address value).1 := by
      rw [Access.after, hoperation]
      rfl
    rw [hafter]
    exact store_ram hregion fun dma hstarts =>
      hquiet access haccess ⟨w, address, value, dma, hoperation, hstarts⟩
  · intro segment w offset hoffset haligns
    refine ⟨_, hload segment hoffset haligns, ?_⟩
    have hfits := fits_ram segment hoffset haligns
    rw [Bytes.toNat_load]
    congr 1
    refine List.map_congr_left fun k hk => ?_
    have hinside : offset + k < Playstation.ramSize :=
      Nat.lt_of_lt_of_le (Nat.add_lt_add_left (List.mem_range.mp hk) _) hfits
    rw [get_ram_powerOn bios hquiet hinside]

/-- A word, one of its bytes and its upper half are stored through different
segments. The half goes over a part of the word, and so does the byte. -/
theorem load_holds_last_mixed :
    let operations : List Operation := [.store .word 0x80000100 0x11223344,
      .store .byte 0xa0000101 0x55, .store .half 0x102 0x6677]
    let bus := (powerOn (.ofWord 0)).performAll operations
    (∀ access ∈ (powerOn (.ofWord 0)).accesses operations, ¬access.StartsTransfer .otc) ∧
    bus.load .byte (Segment.user.address 0x101) = (bus, .ok 0x55) ∧
    bus.load .byte (Segment.cached.address 0x104) = (bus, .ok 0xca) ∧
    ∃ value, bus.load .word (Segment.uncached.address 0x100) = (bus, .ok value) ∧
      value.toNat = 0x66775544 := by
  intro operations bus
  have hquiet : ∀ access ∈ (powerOn (.ofWord 0)).accesses operations,
      ¬access.StartsTransfer .otc := by
    rintro access haccess ⟨w, address, value, dma, hoperation, hstarts⟩
    simp only [operations, accesses, List.mem_cons, List.not_mem_nil, or_false] at haccess
    rcases haccess with rfl | rfl | rfl <;>
      (cases hoperation; exact absurd hstarts.region (by decide))
  have hheld := load_holds_last (.ofWord 0) operations hquiet
  have hbytes : (List.range Width.word.bytes).map (fun k =>
      (heldByte ((powerOn (.ofWord 0)).accesses operations) (0x100 + k)).toNat) =
        [0x44, 0x55, 0x77, 0x66] := by
    decide +kernel
  obtain ⟨value, hload, hvalue⟩ := hheld.2.2 .uncached .word 0x100 (by decide) rfl
  rw [hbytes] at hvalue
  exact ⟨hquiet, hheld.1 .user 0x101 (by decide), hheld.1 .cached 0x104 (by decide), value, hload,
    hvalue⟩

end Bus

end Playstation
