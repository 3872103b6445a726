import Playstation.Proofs.Dma.Store
import Playstation.Proofs.Dma.Transfer

/-!
# What a refused operation leaves

A load or a store is refused before it has changed anything, with one
exception: a store which starts a transfer has written a register when the
transfer fails. That register is then all that is different, unless the
transfer was one along a list without last node, whose words have been sent to
the graphics processor.
-/

namespace Playstation

/-- Whether a fault is one of a transfer and not of the access which starts
it. -/
def BusFault.failsTransfer : BusFault → Bool
  | dma fault => fault.failsTransfer
  | unaligned _ _ | unmapped _ | badExpansionBase _ _ => false

/-- One controller comes from another by a write to a register, and nothing else
is different. -/
structure Dma.DiffersIn (before after : Dma) (register : DmaRegister) : Prop where
  /-- The register has been written. -/
  written : ∃ word, before.write register word = .ok after
  /-- The other registers show what they did. -/
  registers : ∀ other ≠ register, after.read other = before.read other
  /-- The channels of other ports are as they were. -/
  channels : ∀ port, register.port? ≠ some port → after.channel port = before.channel port
  /-- The interrupts are as they were, unless it is their register. -/
  interrupts : register ≠ .interrupt → after.interrupts = before.interrupts

/-- A write makes a difference in the register that is written. -/
theorem Dma.differsIn_write {before after : Dma} {register : DmaRegister} {word : UInt32}
    (h : before.write register word = .ok after) : before.DiffersIn after register where
  written := ⟨word, h⟩
  registers _ hother := read_write h hother
  channels _ hport := channel_write h hport
  interrupts hother := interrupts_write h hother

/-- A memory control register is refused where it would move a window. -/
theorem MemoryControl.store_error {control : MemoryControl} {offset value : UInt32}
    {cause : BusFault} (h : control.store offset value = .error cause) :
    ∃ expansion, cause = .badExpansionBase expansion value := by
  rw [store] at h
  split at h
  · cases h
    exact ⟨1, rfl⟩
  · split at h
    · cases h
      exact ⟨2, rfl⟩
    · cases h

namespace Bus

variable {bus : Bus} {w : Width} {address value : UInt32} {port : Port} {dma : Dma}

/-- What is left of the bus when the transfer of the channel of a port fails. -/
def FailsAs (bus : Bus) (port : Port) (fault : DmaFault) (after : Bus) : Prop :=
  match fault with
  | .unsupportedTransfer other _ | .invalidLinkedList other _ => other = port ∧ after = bus
  | .malformedLinkedList _ => port = .gpu ∧ ∃ gpu, after = { bus with gpu }
  | .invalidSyncMode _ | .invalidRegister _ => False

/-- A block transfer that fails is not begun. -/
theorem failsAs_transferBlock (bus : Bus) (port : Port) (size : Nat) :
    ∀ fault ∈ (bus.transferBlock port size).2,
      bus.FailsAs port fault (bus.transferBlock port size).1 := by
  fun_cases Bus.transferBlock bus port size with
  | case1 | case2 => rintro fault ⟨⟩
  | case3 =>
    rintro fault ⟨⟩
    exact ⟨rfl, rfl⟩

/-- A list transfer that fails is not begun, or has sent words to the graphics
processor. -/
theorem failsAs_transferList (bus : Bus) (port : Port) :
    ∀ fault ∈ (bus.transferList port).2,
      bus.FailsAs port fault (bus.transferList port).1 := by
  fun_cases Bus.transferList bus port with
  | case1 _ _ _ _ _ _ _ _ gpu ended =>
    intro fault hfault
    cases ended with
    | true => cases hfault
    | false =>
      cases hfault
      exact ⟨rfl, gpu, rfl⟩
  | case2 =>
    rintro fault ⟨⟩
    exact ⟨rfl, rfl⟩

/-- A transfer that fails is not begun, or is one along a list. -/
theorem failsAs_transfer (bus : Bus) (port : Port) :
    ∀ fault ∈ (bus.transfer port).2, bus.FailsAs port fault (bus.transfer port).1 := by
  obtain ⟨outcome, houtcome, hrun⟩ := bus.exists_outcome port
  have hfails : ∀ fault ∈ outcome.2, bus.FailsAs port fault outcome.1 := by
    rcases houtcome with ⟨size, rfl⟩ | rfl
    · exact bus.failsAs_transferBlock port size
    · exact bus.failsAs_transferList port
  rw [hrun]
  rcases outcome with ⟨after, _ | reason⟩
  · rintro fault ⟨⟩
  · exact hfails

/-- A store to the controller which is refused has changed nothing, or has
started a transfer that fails. -/
theorem storeDma_refused {fault : DmaFault} (haligns : w.aligns address = true)
    (hregion : Region.find? (physical address) = some .dma)
    (h : (bus.storeDma w (Region.dma.offsetOf (physical address)) value).2 = some fault) :
    ((bus.storeDma w (Region.dma.offsetOf (physical address)) value).1 = bus ∧
        fault.failsTransfer = false) ∨
      ∃ port dma, bus.Starts w address value port dma ∧
        ({ bus with dma } : Bus).FailsAs port fault
          (bus.storeDma w (Region.dma.offsetOf (physical address)) value).1 := by
  cases hregister : DmaRegister.ofOffset?
      (Region.dma.offsetOf (physical address) &&& 0xfffffffc) with
  | none =>
    rw [storeDma_of_no_register hregister] at h ⊢
    cases h
    exact .inl ⟨rfl, rfl⟩
  | some register =>
    obtain ⟨number, hrefused⟩ | ⟨word, dma, hword, hwrite, hstore⟩ :=
      @storeDma_cases bus w (Region.dma.offsetOf (physical address)) value register hregister
    · rw [hrefused] at h ⊢
      cases h
      exact .inl ⟨rfl, rfl⟩
    · rw [hstore] at h ⊢
      cases hready : dma.ready? register with
      | none =>
        rw [hready] at h
        cases h
      | some port =>
        rw [hready] at h
        obtain ⟨hport, hactive⟩ := Option.filter_eq_some_iff.mp hready
        exact .inr ⟨port, dma,
          ⟨haligns, hregion, ⟨register, word, hregister, hport, hword, hwrite⟩, hactive⟩,
          failsAs_transfer _ port fault h⟩

/-- A store which is refused has changed nothing, or has started a transfer that
fails. -/
theorem store_refused {fault : BusFault} (h : (bus.store w address value).2 = some fault) :
    ((bus.store w address value).1 = bus ∧ fault.failsTransfer = false) ∨
      ∃ port dma reason, fault = .dma reason ∧ bus.Starts w address value port dma ∧
        ({ bus with dma } : Bus).FailsAs port reason (bus.store w address value).1 := by
  by_cases haligns : w.aligns address = true
  · cases hregion : Region.find? (physical address) with
    | none =>
      rw [store, if_pos haligns, hregion] at h ⊢
      cases h
      exact .inl ⟨rfl, rfl⟩
    | some region =>
      cases region with
      | dma =>
        rw [store_of_dma haligns hregion] at h ⊢
        obtain ⟨reason, hreason, rfl⟩ := Option.map_eq_some_iff.mp h
        obtain hkept | ⟨port, dma, hstarts, hfails⟩ := storeDma_refused haligns hregion hreason
        · exact .inl hkept
        · exact .inr ⟨port, dma, reason, rfl, hstarts, hfails⟩
      | memoryControl =>
        -- A window that would move is found out before the register is written.
        rw [store_of_region haligns hregion, storeRegion] at h ⊢
        split at h
        · cases h
        · next hmoved =>
          cases h
          obtain ⟨expansion, rfl⟩ := MemoryControl.store_error hmoved
          exact .inl ⟨rfl, rfl⟩
      | _ =>
        rw [store_of_region haligns hregion] at h
        cases h
  · rw [store, if_neg haligns] at h ⊢
    cases h
    exact .inl ⟨rfl, rfl⟩

/-- A load which is refused is not noticed. -/
theorem load_refused {fault : BusFault} (h : (bus.load w address).2 = .error fault) :
    (bus.load w address).1 = bus := by
  change bus.notice w address = bus
  rw [notice]
  split
  · next hreads =>
    -- The read port always has a value.
    rw [readsImage, Bool.and_eq_true, Bool.and_eq_true, beq_iff_eq] at hreads
    obtain ⟨⟨haligns, hregion⟩, -⟩ := hreads
    change (bus.notice w address).peek w address = .error fault at h
    rw [peek_of_region haligns hregion] at h
    cases h
  · rfl

/-- A store which starts a transfer writes a register of its channel. -/
theorem Starts.differsIn (h : bus.Starts w address value port dma) :
    ∃ register, (Operation.store w address value).register? = some register ∧
      register.port? = some port ∧ bus.dma.DiffersIn dma register := by
  obtain ⟨register, word, hregister, hport, -, hwrite⟩ := h.write
  exact ⟨register, Operation.register?_store_eq_some.mpr ⟨⟨h.aligns, h.region⟩, hregister⟩, hport,
    Dma.differsIn_write hwrite⟩

/-- A load or a peek which is refused leaves the bus as it is. So does a store
which is refused for its address, for the place of an expansion window, or
because the controller has no such register or sync mode. A store whose transfer
cannot be run leaves the register it has written and no other difference, and
one whose list does not end has in addition sent words to the graphics
processor. -/
theorem refused_leaves (bus : Bus) (w : Width) (address value : UInt32) :
    (∀ fault, (bus.load w address).2 = .error fault → (bus.load w address).1 = bus) ∧
    (∀ fault, (bus.perform (.peek w address)).2 = some fault →
      (bus.perform (.peek w address)).1 = bus) ∧
    ∀ fault, (bus.store w address value).2 = some fault →
      match fault with
      | .unaligned _ _ | .unmapped _ | .badExpansionBase _ _
      | .dma (.invalidRegister _) | .dma (.invalidSyncMode _) =>
        (bus.store w address value).1 = bus
      | .dma (.unsupportedTransfer port _) | .dma (.invalidLinkedList port _) =>
        ∃ register dma, (Operation.store w address value).register? = some register ∧
          register.port? = some port ∧ bus.dma.DiffersIn dma register ∧
          (bus.store w address value).1 = { bus with dma }
      | .dma (.malformedLinkedList _) =>
        ∃ register dma gpu, (Operation.store w address value).register? = some register ∧
          register.port? = some .gpu ∧ bus.dma.DiffersIn dma register ∧
          (bus.store w address value).1 = { bus with dma, gpu } := by
  refine ⟨fun _ => load_refused, fun _ _ => perform_peek bus w address, ?_⟩
  intro fault h
  obtain ⟨hkept, hfault⟩ | ⟨port, dma, reason, rfl, hstarts, hfails⟩ := store_refused h
  · cases fault with
    | dma reason =>
      cases reason with
      | invalidRegister | invalidSyncMode => exact hkept
      | unsupportedTransfer | invalidLinkedList | malformedLinkedList => cases hfault
    | _ => exact hkept
  · obtain ⟨register, hregister, hport, hdiffers⟩ := hstarts.differsIn
    cases reason with
    | invalidRegister | invalidSyncMode => exact hfails.elim
    | unsupportedTransfer other | invalidLinkedList other =>
      obtain ⟨rfl, hafter⟩ := hfails
      exact ⟨register, dma, hregister, hport, hdiffers, hafter⟩
    | malformedLinkedList =>
      obtain ⟨rfl, gpu, hafter⟩ := hfails
      exact ⟨register, dma, gpu, hregister, hport, hdiffers, hafter⟩

/-- A byte which would move the first expansion window is refused once it has
been merged into the base, and a block for the sound processor once the control
register of its channel has been written. -/
theorem refused_leaves_powerOn :
    ((powerOn (.ofWord 0)).load .half 0x1f801081).2 = .error (.unaligned 0x1f801081 .half) ∧
    ((powerOn (.ofWord 0)).load .half 0x1f801081).1 = powerOn (.ofWord 0) ∧
    ((powerOn (.ofWord 0)).store .byte 0x1f801001 0x40).2 =
      some (.badExpansionBase 1 0x1f004000) ∧
    ((powerOn (.ofWord 0)).store .byte 0x1f801001 0x40).1 = powerOn (.ofWord 0) ∧
    ((powerOn (.ofWord 0)).store .word 0x1f8010c8 0x11000001).2 =
      some (.dma (.unsupportedTransfer .spu .fromRam)) ∧
    ∃ register dma, (Operation.store .word 0x1f8010c8 0x11000001).register? = some register ∧
      register.port? = some .spu ∧ (powerOn (.ofWord 0)).dma.DiffersIn dma register ∧
      ((powerOn (.ofWord 0)).store .word 0x1f8010c8 0x11000001).1 =
        { powerOn (.ofWord 0) with dma } := by
  have hload : ((powerOn (.ofWord 0)).load .half 0x1f801081).2 =
      .error (.unaligned 0x1f801081 .half) := rfl
  have hmoved : ((powerOn (.ofWord 0)).store .byte 0x1f801001 0x40).2 =
      some (.badExpansionBase 1 0x1f004000) := rfl
  have hblock : ((powerOn (.ofWord 0)).store .word 0x1f8010c8 0x11000001).2 =
      some (.dma (.unsupportedTransfer .spu .fromRam)) := rfl
  exact ⟨hload, (refused_leaves _ _ _ 0).1 _ hload, hmoved, (refused_leaves _ _ _ _).2.2 _ hmoved,
    hblock, (refused_leaves _ _ _ _).2.2 _ hblock⟩

end Bus

end Playstation
