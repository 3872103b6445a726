import Playstation.Proofs.Bus.Operation

/-!
# Stores to the DMA controller

There are few ways for a store to the controller to go: there is no register,
the write is refused for its sync mode, or the register is written, and then
the transfer of its channel is run if that is ready. A transfer is completed or
fails, and a transfer that fails leaves the controller as it is. Everything
else that happens on the bus leaves the controller alone.
-/

namespace Playstation

/-- Whether a fault is one of a transfer and not of the access to a
register. -/
def DmaFault.failsTransfer : DmaFault → Bool
  | unsupportedTransfer _ _ | invalidLinkedList _ _ | malformedLinkedList _ => true
  | invalidSyncMode _ | invalidRegister _ => false

/-- Different ports have different channels. -/
theorem Port.index_injective : Function.Injective Port.index := by
  intro port other h
  cases port <;> cases other <;> first | rfl | cases h

namespace Dma

variable {dma after : Dma} {register : DmaRegister} {port : Port} {value : UInt32}

/-- A channel is replaced for its own port. -/
theorem channel_setChannel (dma : Dma) (port other : Port) (channel : Channel) :
    (dma.setChannel port channel).channel other =
      if other = port then channel else dma.channel other := by
  rw [setChannel, Dma.channel, Dma.channel]
  by_cases h : other = port
  · subst h
    rw [if_pos rfl]
    exact Vector.getElem_set_self other.index.isLt
  · have hindex : port.index.val ≠ other.index.val :=
      fun heq => h (Port.index_injective (Fin.ext heq)).symm
    rw [if_neg h]
    exact Vector.getElem_set_ne port.index.isLt other.index.isLt hindex

/-- The channel of a port is the one that has been put there. -/
theorem channel_setChannel_self (dma : Dma) (port : Port) (channel : Channel) :
    (dma.setChannel port channel).channel port = channel := by
  rw [channel_setChannel, if_pos rfl]

/-- A write which is refused asks for a sync mode that does not exist. -/
theorem write_refused {fault : DmaFault} (h : dma.write register value = .error fault) :
    ∃ number, fault = .invalidSyncMode number := by
  cases register with
  | channelControl port =>
    rw [write] at h
    split at h
    · cases h
    · cases h
      exact ⟨_, rfl⟩
  | _ => cases h

/-- A write leaves the channels of other ports. -/
theorem channel_write {other : Port} (h : dma.write register value = .ok after)
    (hother : register.port? ≠ some other) : after.channel other = dma.channel other := by
  cases register with
  | base port | blockControl port =>
    have hne : other ≠ port := fun heq => hother (congrArg some heq.symm)
    cases h
    rw [channel_setChannel, if_neg hne]
  | channelControl port =>
    have hne : other ≠ port := fun heq => hother (congrArg some heq.symm)
    rw [write] at h
    split at h
    · cases h
      rw [channel_setChannel, if_neg hne]
    · cases h
  | control | interrupt =>
    cases h
    rfl

/-- Replacing the channel of a port leaves the registers which are not its. -/
theorem read_setChannel (dma : Dma) (channel : Channel) (h : register.port? ≠ some port) :
    (dma.setChannel port channel).read register = dma.read register := by
  cases register with
  | base other | blockControl other | channelControl other =>
    have hne : other ≠ port := fun heq => h (congrArg some heq)
    rw [read, read, channel_setChannel, if_neg hne]
  | control | interrupt => rfl

/-- A write leaves what the other registers show. -/
theorem read_write {other : DmaRegister} (h : dma.write register value = .ok after)
    (hother : other ≠ register) : after.read other = dma.read other := by
  cases register with
  | control | interrupt =>
    cases h
    cases other <;> first | rfl | exact absurd rfl hother
  | base port | blockControl port =>
    cases h
    by_cases hport : other.port? = some port
    · -- The other registers of the channel hold other fields.
      cases other <;> cases hport <;>
        first | exact absurd rfl hother | rw [read, channel_setChannel_self]; rfl
    · exact read_setChannel _ _ hport
  | channelControl port =>
    rw [write] at h
    split at h
    · next channel hset =>
      obtain ⟨sync, -, rfl⟩ := Option.map_eq_some_iff.mp hset
      cases h
      by_cases hport : other.port? = some port
      · cases other <;> cases hport <;>
          first | exact absurd rfl hother | rw [read, channel_setChannel_self]; rfl
      · exact read_setChannel _ _ hport
    · cases h

/-- A write to another register leaves the interrupt register. -/
theorem interrupts_write (h : dma.write register value = .ok after)
    (hother : register ≠ .interrupt) : after.interrupts = dma.interrupts := by
  cases register with
  | interrupt => exact absurd rfl hother
  | channelControl port =>
    rw [write] at h
    split at h
    · cases h
      rfl
    · cases h
  | _ =>
    cases h
    rfl

/-- The port which is ready is that of the register, if its channel is
active. -/
theorem ready?_eq (dma : Dma) (h : register.port? = some port) :
    dma.ready? register = if (dma.channel port).isActive then some port else none := by
  rw [ready?, h, Option.filter_some]

end Dma

namespace Bus

variable {bus : Bus} {w : Width} {offset value : UInt32} {register : DmaRegister}

/-- A block transfer leaves the controller, and its faults are faults of
transfers. -/
theorem transferBlock_dma (bus : Bus) (port : Port) (size : Nat) :
    (bus.transferBlock port size).1.dma = bus.dma ∧
      ∀ fault ∈ (bus.transferBlock port size).2, fault.failsTransfer = true := by
  fun_cases Bus.transferBlock bus port size with
  | case1 | case2 =>
    refine ⟨rfl, ?_⟩
    rintro fault ⟨⟩
  | case3 =>
    refine ⟨rfl, ?_⟩
    rintro fault ⟨⟩
    rfl

/-- A list transfer leaves the controller, and its faults are faults of
transfers. -/
theorem transferList_dma (bus : Bus) (port : Port) :
    (bus.transferList port).1.dma = bus.dma ∧
      ∀ fault ∈ (bus.transferList port).2, fault.failsTransfer = true := by
  fun_cases Bus.transferList bus port with
  | case1 _ _ _ _ _ _ _ _ gpu ended =>
    refine ⟨rfl, ?_⟩
    intro fault hfault
    cases ended with
    | true => cases hfault
    | false =>
      cases hfault
      rfl
  | case2 =>
    refine ⟨rfl, ?_⟩
    rintro fault ⟨⟩
    rfl

/-- A transfer is one of a block or one along a list. It is completed if that
one succeeds. -/
theorem exists_outcome (bus : Bus) (port : Port) :
    ∃ outcome : Bus × Option DmaFault,
      ((∃ size, outcome = bus.transferBlock port size) ∨ outcome = bus.transferList port) ∧
        bus.transfer port =
          outcome.2.elim ({ outcome.1 with dma := outcome.1.dma.complete port }, none)
            (fun fault => (outcome.1, some fault)) := by
  cases hsize : (bus.dma.channel port).transferSize? with
  | some size =>
    refine ⟨bus.transferBlock port size, .inl ⟨size, rfl⟩, ?_⟩
    simp only [transfer, hsize]
    rcases bus.transferBlock port size with ⟨after, _ | fault⟩ <;> rfl
  | none =>
    refine ⟨bus.transferList port, .inr rfl, ?_⟩
    simp only [transfer, hsize]
    rcases bus.transferList port with ⟨after, _ | fault⟩ <;> rfl

/-- A transfer is completed or fails, and changes the controller only in the
first case. -/
theorem transfer_cases (bus : Bus) (port : Port) :
    ((bus.transfer port).2 = none ∧ (bus.transfer port).1.dma = bus.dma.complete port) ∨
      ∃ fault, (bus.transfer port).2 = some fault ∧ fault.failsTransfer = true ∧
        (bus.transfer port).1.dma = bus.dma := by
  obtain ⟨outcome, houtcome, hrun⟩ := bus.exists_outcome port
  obtain ⟨hdma, hfault⟩ :
      outcome.1.dma = bus.dma ∧ ∀ fault ∈ outcome.2, fault.failsTransfer = true := by
    rcases houtcome with ⟨size, rfl⟩ | rfl
    · exact bus.transferBlock_dma port size
    · exact bus.transferList_dma port
  rw [hrun]
  rcases outcome with ⟨after, _ | fault⟩
  · exact .inl ⟨rfl, congrArg (Dma.complete · port) hdma⟩
  · exact .inr ⟨fault, rfl, hfault fault rfl, hdma⟩

/-- A transfer is not refused for a sync mode. -/
theorem transfer_ne_invalidSyncMode (bus : Bus) (port : Port) (number : UInt32) :
    (bus.transfer port).2 ≠ some (.invalidSyncMode number) := by
  rcases bus.transfer_cases port with ⟨hdone, -⟩ | ⟨fault, hfailed, hfault, -⟩
  · rw [hdone]
    exact fun heq => nomatch heq
  · rw [hfailed]
    intro heq
    cases heq
    cases hfault

/-- A store where the controller has no register is refused. -/
theorem storeDma_of_no_register
    (h : DmaRegister.ofOffset? (offset &&& 0xfffffffc) = none) :
    bus.storeDma w offset value = (bus, some (.invalidRegister (offset &&& 0xfffffffc))) := by
  have hload : bus.dma.load (offset &&& 0xfffffffc) =
      .error (.invalidRegister (offset &&& 0xfffffffc)) := by
    rw [Dma.load, h]
  have hstore (value : UInt32) : bus.dma.store (offset &&& 0xfffffffc) value =
      .error (.invalidRegister (offset &&& 0xfffffffc)) := by
    rw [Dma.store, h]
  cases w with
  | word => simp only [storeDma, dmaStoreValue, hstore]
  | byte | half => simp only [storeDma, dmaStoreValue, hload]

/-- Where there is a register, there is a word for it. -/
theorem exists_dmaStoreValue (h : DmaRegister.ofOffset? (offset &&& 0xfffffffc) = some register) :
    ∃ word, bus.dmaStoreValue w offset value = .ok word := by
  have hload : bus.dma.load (offset &&& 0xfffffffc) = .ok (bus.dma.read register) := by
    rw [Dma.load, h]
  cases w with
  | word => exact ⟨_, rfl⟩
  | byte | half =>
    simp only [dmaStoreValue, hload]
    exact ⟨_, rfl⟩

/-- A store which writes a register of the controller runs the transfer of the port
that is then ready. -/
theorem storeDma_of_write {word : UInt32} {dma : Dma}
    (h : DmaRegister.ofOffset? (offset &&& 0xfffffffc) = some register)
    (hword : bus.dmaStoreValue w offset value = .ok word)
    (hwrite : bus.dma.write register word = .ok dma) :
    bus.storeDma w offset value = (dma.ready? register).elim ({ bus with dma }, none)
      ({ bus with dma } : Bus).transfer := by
  simp only [storeDma, hword, Dma.store, h, hwrite]
  cases dma.ready? register <;> rfl

/-- A store to a register of the controller is refused for its sync mode, or
writes the register and then runs the transfer of the port that is ready. -/
theorem storeDma_cases (h : DmaRegister.ofOffset? (offset &&& 0xfffffffc) = some register) :
    (∃ number, bus.storeDma w offset value = (bus, some (.invalidSyncMode number))) ∨
      ∃ word dma, bus.dmaStoreValue w offset value = .ok word ∧
        bus.dma.write register word = .ok dma ∧
        bus.storeDma w offset value = (dma.ready? register).elim ({ bus with dma }, none)
          ({ bus with dma } : Bus).transfer := by
  obtain ⟨word, hword⟩ := @exists_dmaStoreValue bus w offset value register h
  cases hwrite : bus.dma.write register word with
  | error fault =>
    obtain ⟨number, rfl⟩ := Dma.write_refused hwrite
    refine .inl ⟨number, ?_⟩
    simp only [storeDma, hword, Dma.store, h, hwrite]
  | ok dma => exact .inr ⟨word, dma, hword, hwrite, storeDma_of_write h hword hwrite⟩

/-- The DMA register which an operation stores to, if it does. A misaligned
store reaches none. -/
def Operation.register? (operation : Operation) : Option DmaRegister :=
  match operation with
  | .store w address _ =>
    if w.aligns address ∧ Region.find? (physical address) = some .dma then
      DmaRegister.ofOffset? (Region.dma.offsetOf (physical address) &&& 0xfffffffc)
    else none
  | .load _ _ | .peek _ _ => none

/-- A store reaches a register if it is aligned and goes to an address of the
controller where the register is. -/
theorem Operation.register?_store_eq_some {address : UInt32} :
    (Operation.store w address value).register? = some register ↔
      (w.aligns address = true ∧ Region.find? (physical address) = some .dma) ∧
        DmaRegister.ofOffset? (Region.dma.offsetOf (physical address) &&& 0xfffffffc) =
          some register := by
  rw [register?]
  split
  · next hreached => exact ⟨fun h => ⟨hreached, h⟩, fun h => h.2⟩
  · next hmissed =>
    constructor
    · intro h
      cases h
    · intro h
      exact absurd h.1 hmissed

/-- An operation which stores to a register is an aligned store to an address
of the controller. -/
theorem Operation.stores_of_register {operation : Operation}
    (h : operation.register? = some register) :
    ∃ w address value, operation = .store w address value ∧ w.aligns address = true ∧
      Region.find? (physical address) = some .dma ∧
      DmaRegister.ofOffset? (Region.dma.offsetOf (physical address) &&& 0xfffffffc) =
        some register := by
  cases operation with
  | load w address | peek w address => cases h
  | store w address value =>
    obtain ⟨⟨haligns, hregion⟩, hoffset⟩ := register?_store_eq_some.mp h
    exact ⟨w, address, value, rfl, haligns, hregion, hoffset⟩

/-- An aligned store to an address of the controller ends as the controller
does. -/
theorem store_of_dma {address : UInt32} (haligns : w.aligns address = true)
    (hregion : Region.find? (physical address) = some .dma) :
    bus.store w address value =
      ((bus.storeDma w (Region.dma.offsetOf (physical address)) value).1,
        (bus.storeDma w (Region.dma.offsetOf (physical address)) value).2.map .dma) := by
  rw [store_of_region haligns hregion, storeRegion]
  rcases bus.storeDma w (Region.dma.offsetOf (physical address)) value with
    ⟨after, _ | fault⟩ <;> rfl

namespace Access

/-- An operation which stores to no register of the controller leaves the
controller as it is. -/
theorem after_dma (access : Access) (h : access.operation.register? = none) :
    access.after.dma = access.bus.dma := by
  rcases access with ⟨bus, operation⟩
  cases operation with
  | load w address =>
    rw [after, perform_load]
  | peek w address =>
    rw [after, perform_peek]
  | store w address value =>
    change (bus.store w address value).1.dma = bus.dma
    rw [store]
    split
    · next haligns =>
      cases hregion : Region.find? (physical address) with
      | none => rfl
      | some region =>
        cases region with
        | dma =>
          have hnone : DmaRegister.ofOffset?
              (Region.dma.offsetOf (physical address) &&& 0xfffffffc) = none := by
            rw [Operation.register?, if_pos ⟨haligns, hregion⟩] at h
            exact h
          simp only [storeRegion, storeDma_of_no_register hnone]
        | memoryControl =>
          simp only [storeRegion]
          split <;> rfl
        | _ => rfl
    · rfl

/-- An operation which stores to a register of the controller ends as the
controller does. -/
theorem stores_of_register (access : Access) {register : DmaRegister}
    (h : access.operation.register? = some register) :
    ∃ w offset value, DmaRegister.ofOffset? (offset &&& 0xfffffffc) = some register ∧
      access.after = (access.bus.storeDma w offset value).1 ∧
      access.fault? = (access.bus.storeDma w offset value).2.map .dma := by
  rcases access with ⟨bus, operation⟩
  obtain ⟨w, address, value, rfl, haligns, hregion, hregister⟩ :=
    Operation.stores_of_register h
  have hstore := @store_of_dma bus w value address haligns hregion
  exact ⟨w, Region.dma.offsetOf (physical address), value, hregister,
    congrArg Prod.fst hstore, congrArg Prod.snd hstore⟩

end Access

end Bus

end Playstation
