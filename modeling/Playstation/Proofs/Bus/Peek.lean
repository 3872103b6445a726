import Playstation.Proofs.Bus.Frame
import Playstation.Proofs.Bus.PartStore
import Playstation.Proofs.Gpu.Image
import Playstation.Proofs.Gpu.ReadPort

/-!
# Peeks and loads

A peek tells what a load would return, and changes nothing. A load changes
nothing either, with one exception: one from the read port of the graphics
processor, while an image is on its way, takes the next pixels to the latch.
That is what peeks there show from then on, until the next load from the port
or the next store to the control port.
-/

namespace Playstation

namespace Bus

/-- An access is aligned and falls on the word at a physical place. -/
structure InWord (w : Width) (address place : UInt32) : Prop where
  /-- The address is a multiple of the width. -/
  aligns : w.aligns address = true
  /-- It is not before the place. -/
  low : place.toNat ≤ (physical address).toNat
  /-- It is less than four bytes behind it. -/
  high : (physical address).toNat < place.toNat + 4

/-- The place of the read port, which is also that of the drawing port. -/
def readPort : UInt32 := 0x1f801810

/-- The place of the control port. -/
def controlPort : UInt32 := 0x1f801814

/-- An operation which can change what the read port shows: a load from it, or a
store to the control port. -/
def Operation.MayLatch : Operation → Prop
  | load w address => InWord w address readPort
  | peek _ _ => False
  | store w address _ => InWord w address controlPort

variable {bus : Bus} {w : Width} {address value : UInt32}

/-- The graphics processor is where its two ports are. -/
theorem find?_gpu_iff :
    Region.find? (physical address) = some .gpu ↔
      0x1f801810 ≤ (physical address).toNat ∧ (physical address).toNat < 0x1f801818 := by
  constructor
  · intro h
    obtain ⟨hoffset, hle, hlt⟩ := Region.toNat_offsetOf (Region.contains_of_find? h)
    change 0x1f801810 ≤ _ at hle
    change _ = _ - 0x1f801810 at hoffset
    change _ < 8 at hlt
    omega
  · rintro ⟨hle, hlt⟩
    refine Region.find?_of_contains ?_
    rw [AddressRange.contains_iff]
    change 0x1f801810 ≤ _ ∧ _ - 0x1f801810 < 8
    omega

/-- The offset of a port of the graphics processor as a number. -/
theorem toNat_offsetOf_gpu (h : Region.find? (physical address) = some .gpu) :
    (Region.gpu.offsetOf (physical address)).toNat = (physical address).toNat - 0x1f801810 :=
  (Region.toNat_offsetOf (Region.contains_of_find? h)).1

/-- The graphics processor notices the loads from its read port. -/
theorem readsImage_iff : readsImage w address = true ↔ InWord w address readPort := by
  rw [readsImage, Bool.and_eq_true, Bool.and_eq_true, beq_iff_eq, decide_eq_true_eq,
    UInt32.lt_iff_toNat_lt]
  constructor
  · rintro ⟨⟨haligns, hregion⟩, hfirst⟩
    have hplace := find?_gpu_iff.mp hregion
    rw [toNat_offsetOf_gpu hregion] at hfirst
    change _ < 4 at hfirst
    refine ⟨haligns, hplace.1, ?_⟩
    change _ < 0x1f801810 + 4
    omega
  · rintro ⟨haligns, hlow, hhigh⟩
    change 0x1f801810 ≤ _ at hlow
    change _ < 0x1f801810 + 4 at hhigh
    have hregion : Region.find? (physical address) = some .gpu := find?_gpu_iff.mpr (by omega)
    refine ⟨⟨haligns, hregion⟩, ?_⟩
    rw [toNat_offsetOf_gpu hregion]
    change _ < 4
    omega

/-- A byte is where it is in the word as it is in the register. -/
theorem byteShift_offsetOf_gpu (h : Region.find? (physical address) = some .gpu) :
    byteShift (Region.gpu.offsetOf (physical address)) = byteShift address := by
  have hlow : Region.gpu.offsetOf (physical address) &&& 3 = address &&& 3 := by
    have hoffset := toNat_offsetOf_gpu h
    have hplace := find?_gpu_iff.mp h
    rw [← physical_lowBits address]
    apply UInt32.toNat_inj.mp
    rw [@toNat_and_mask _ 3 2 rfl, @toNat_and_mask _ 3 2 rfl]
    omega
  rw [byteShift, byteShift, hlow]

/-- The read port shows the bytes of the latch which the address names. -/
theorem peek_readPort (bus : Bus) (h : InWord w address readPort) :
    bus.peek w address =
      .ok (.ofNat (bus.gpu.latch.toNat / 256 ^ (address.toNat % 4) % 256 ^ w.bytes)) := by
  have hreads := readsImage_iff.mpr h
  rw [readsImage, Bool.and_eq_true, Bool.and_eq_true, beq_iff_eq, decide_eq_true_eq] at hreads
  obtain ⟨⟨haligns, hregion⟩, hfirst⟩ := hreads
  have hplace : narrow w bus.gpu.latch (Region.gpu.offsetOf (physical address)) =
      narrow w bus.gpu.latch address := by
    rw [narrow, narrow, byteShift_offsetOf_gpu hregion]
  rw [peek_of_region haligns hregion, peekRegion]
  simp only [if_pos hfirst, hplace]
  rw [← toNat_narrow, UInt32.ofNat_toNat]

/-- Where there is no image to be read, a load is a peek. -/
theorem load_eq_peek (h : ¬(InWord w address readPort ∧ bus.gpu.isLoading = true)) :
    bus.load w address = (bus, bus.peek w address) := by
  have hnotice : bus.notice w address = bus := by
    rw [notice]
    split
    · next hreads =>
      have hquiet : bus.gpu.isLoading = false := by
        rw [← Bool.not_eq_true]
        exact fun hloading => h ⟨readsImage_iff.mp hreads, hloading⟩
      rw [Gpu.read_of_not_loading hquiet]
    · rfl
  rw [load, hnotice]

/-- What a transfer sends to the graphics processor goes to the drawing port. -/
theorem latch_transfer (bus : Bus) (port : Port) :
    (bus.transfer port).1.gpu.latch = bus.gpu.latch := by
  obtain ⟨outcome, houtcome, hrun⟩ := bus.exists_outcome port
  have hkept : outcome.1.gpu.latch = bus.gpu.latch := by
    rcases houtcome with ⟨size, rfl⟩ | rfl
    · fun_cases Bus.transferBlock bus port size with
      | case1 => exact Gpu.latch_sendBlock _ _ _ _ _
      | case2 | case3 => rfl
    · fun_cases Bus.transferList bus port with
      | case1 =>
        next hsend =>
          have hlatch := congrArg (fun result => result.1.latch) hsend
          exact hlatch.symm.trans (Gpu.latch_foldList _ _ _ _)
      | case2 => rfl
  rw [hrun]
  rcases outcome with ⟨after, _ | fault⟩ <;> exact hkept

/-- Only stores to the control port change the latch. -/
theorem latch_store (h : ¬InWord w address controlPort) :
    (bus.store w address value).1.gpu.latch = bus.gpu.latch := by
  by_cases hgpu : target? w address = some .gpu
  · obtain ⟨haligns, hregion⟩ := Option.ite_none_right_eq_some.mp hgpu
    have hfirst : Region.gpu.offsetOf (physical address) < 4 := by
      rw [UInt32.lt_iff_toNat_lt, toNat_offsetOf_gpu hregion]
      change _ < 4
      have hplace := find?_gpu_iff.mp hregion
      by_contra hsecond
      refine h ⟨haligns, ?_, ?_⟩
      · change 0x1f801814 ≤ _
        omega
      · change _ < 0x1f801814 + 4
        omega
    rw [store_of_region haligns hregion, storeRegion]
    simp only [storeGpu, if_pos hfirst, Gpu.latch_gp0]
  · by_cases hdma : target? w address = some .dma
    · obtain ⟨haligns, hregion⟩ := Option.ite_none_right_eq_some.mp hdma
      rw [store_of_dma haligns hregion]
      cases hregister : DmaRegister.ofOffset?
          (Region.dma.offsetOf (physical address) &&& 0xfffffffc) with
      | none => rw [storeDma_of_no_register hregister]
      | some register =>
        obtain ⟨number, hrefused⟩ | ⟨word, dma, -, -, hstore⟩ :=
          @storeDma_cases bus w (Region.dma.offsetOf (physical address)) value register hregister
        · rw [hrefused]
        · rw [hstore]
          cases dma.ready? register with
          | none => rfl
          | some port => exact latch_transfer _ port
    · rw [(bus.store_touches w address value).keeps.2.2 hgpu hdma]

/-- Other operations than those which may change the latch leave it. -/
theorem latch_performAll {operations : List Operation} (h : ∀ operation ∈ operations,
    ¬operation.MayLatch) : (bus.performAll operations).gpu.latch = bus.gpu.latch := by
  induction operations using List.reverseRecOn with
  | nil => rfl
  | append_singleton operations operation ih =>
    have hbefore := ih fun operation hmem => h operation (List.mem_append_left _ hmem)
    have hlast := h operation (List.mem_append_right _ (List.mem_singleton_self _))
    rw [performAll_concat, ← hbefore]
    generalize bus.performAll operations = bus
    cases operation with
    | load w address =>
      have hquiet : readsImage w address = false := by
        rw [← Bool.not_eq_true, readsImage_iff]
        exact hlast
      rw [Access.after, perform_load, notice, hquiet]
      rfl
    | peek w address => rw [Access.after, perform_peek]
    | store w address value => exact latch_store hlast

/-- A peek changes nothing. A load changes nothing either and returns what a
peek returns, be that a value or a fault, unless it is an aligned one from the
read port while an image is on its way. In that case it takes the next two
pixels of the image to the latch, or the last one, however wide it is, and
changes nothing else. It returns the bytes of the latched word which the address
names, and as many as the width says. So do peeks at the port until the next load
from there or the next store to the control port; stores to the drawing port leave
the latch, and so do transfers. -/
theorem peek_and_load (bus : Bus) (w : Width) (address : UInt32) :
    (bus.perform (.peek w address)).1 = bus ∧
    (¬(InWord w address readPort ∧ bus.gpu.isLoading = true) →
      bus.load w address = (bus, bus.peek w address)) ∧
    ∀ image done, InWord w address readPort → bus.gpu.phase = .loading image done →
      ∃ taken latch,
        (bus.load w address).1 =
          { bus with
            gpu :=
              { bus.gpu with
                latch
                phase := if done + 2 < image.area then .loading image (done + 2) else .idle } } ∧
        bus.gpu.unread = taken ++ (bus.load w address).1.gpu.unread ∧
        taken.length = min 2 bus.gpu.unread.length ∧
        latch = Gpu.packPixels taken ∧
        (bus.load w address).2 =
          .ok (.ofNat (latch.toNat / 256 ^ (address.toNat % 4) % 256 ^ w.bytes)) ∧
        ∀ operations : List Operation, (∀ operation ∈ operations, ¬operation.MayLatch) →
          ∀ w' address', InWord w' address' readPort →
            ((bus.load w address).1.performAll operations).peek w' address' =
              .ok (.ofNat (latch.toNat / 256 ^ (address'.toNat % 4) % 256 ^ w'.bytes)) := by
  refine ⟨perform_peek bus w address, load_eq_peek, ?_⟩
  intro image done hport hphase
  obtain ⟨taken, hread, hunread, htaken⟩ := Gpu.read_of_loading hphase
  have hload : (bus.load w address).1 = { bus with gpu := bus.gpu.read } := by
    change bus.notice w address = _
    rw [notice, if_pos (readsImage_iff.mpr hport)]
  have hlatch : (bus.load w address).1.gpu.latch = Gpu.packPixels taken := by
    rw [hload, hread]
  refine ⟨taken, Gpu.packPixels taken, hload.trans (by rw [hread]), ?_, htaken, rfl, ?_, ?_⟩
  · rw [hload]
    exact hunread
  · rw [← hlatch]
    exact peek_readPort _ hport
  · intro operations hquiet w' address' hport'
    rw [peek_readPort _ hport', latch_performAll hquiet, hlatch]

/-- The bus when an image of three pixels in a row has been sent and asked for. -/
def afterAsking : Bus :=
  (powerOn (.ofWord 0)).performAll
    ([0xa0000000, 0, 0x00010003, 0x22221111, 0x00003333, 0xc0000000, 0, 0x00010003].map
      (.store .word readPort))

/-- The next read takes the first two of its pixels. -/
theorem read_afterAsking :
    afterAsking.gpu.phase = .loading ⟨0, 0, 3, 1⟩ 0 ∧
      afterAsking.gpu.read.latch = 0x22221111 := by
  let sent := [0xa0000000, 0, 0x00010003, 0x22221111, 0x00003333].foldl Gpu.gp0 Gpu.powerOn
  have hstore : Gpu.IsStoreWord 0xa0000000 := ⟨by decide, by decide⟩
  have hload : Gpu.IsLoadWord 0xc0000000 := ⟨by decide, by decide⟩
  have himage : Rect.ofImageWords 0 0x00010003 = ⟨0, 0, 3, 1⟩ := by decide
  have hsent := @Gpu.foldl_gp0_image Gpu.powerOn _ rfl hstore 0 0x00010003 _ himage
    [0x22221111, 0x00003333] rfl
  have hwords := @Gpu.imageWords_sent Gpu.powerOn _ rfl hstore 0 0x00010003 _ himage
    [0x22221111, 0x00003333] rfl
  have hasked : afterAsking.gpu = { sent with phase := .loading ⟨0, 0, 3, 1⟩ 0 } := by
    rw [← himage]
    exact Gpu.foldl_gp0_load (Gpu.isIdle_of_done (congrArg Gpu.phase hsent)) hload 0 0x00010003
  rw [hasked]
  exact ⟨rfl, congrArg (List.headD · 0) hwords⟩

/-- Loading the second byte from the port leaves one of the three pixels. The upper half
of the latched word is still there when a command has ended the image. -/
theorem peek_and_load_threePixels :
    InWord .byte 0x1f801811 readPort ∧ afterAsking.gpu.phase = .loading ⟨0, 0, 3, 1⟩ 0 ∧
    afterAsking.gpu.unread.length = 3 ∧
    (afterAsking.load .byte 0x1f801811).1.gpu.unread.length = 1 ∧
    (afterAsking.load .byte 0x1f801811).1.gpu.latch = 0x22221111 ∧
    (afterAsking.load .byte 0x1f801811).2 = .ok 0x11 ∧
    ((afterAsking.load .byte 0x1f801811).1.performAll
      [.store .word readPort 0xe1000000]).peek .half 0xbf801812 = .ok 0x2222 := by
  have hport : InWord .byte 0x1f801811 readPort := ⟨by decide, by decide, by decide⟩
  have hupper : InWord .half 0xbf801812 readPort := ⟨by decide, by decide, by decide⟩
  obtain ⟨hloading, hshown⟩ := read_afterAsking
  have hlength : afterAsking.gpu.unread.length = 3 := by
    rw [Gpu.unread, hloading]
    rfl
  have hdraws : ∀ operation ∈ [Operation.store .word readPort 0xe1000000],
      ¬operation.MayLatch := by
    intro operation hmem hlatches
    rw [List.mem_singleton.mp hmem] at hlatches
    exact absurd hlatches.low (by decide)
  obtain ⟨taken, latch, hafter, hunread, htaken, -, hvalue, hlater⟩ :=
    (peek_and_load afterAsking .byte 0x1f801811).2.2 _ _ hport hloading
  have hlatch : latch = 0x22221111 := by
    have hread : (afterAsking.load .byte 0x1f801811).1.gpu = afterAsking.gpu.read := rfl
    rw [hafter] at hread
    exact (congrArg Gpu.latch hread).trans hshown
  subst hlatch
  have hsplit := congrArg List.length hunread
  rw [List.length_append, htaken, hlength] at hsplit
  exact ⟨hport, hloading, hlength, by omega, congrArg (·.gpu.latch) hafter, hvalue,
    hlater _ hdraws .half 0xbf801812 hupper⟩

end Bus

end Playstation
