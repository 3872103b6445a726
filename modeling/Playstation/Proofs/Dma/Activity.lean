import Mathlib.Data.List.Induction
import Playstation.Proofs.Dma.Store
import Playstation.Proofs.Memory

/-!
# When a channel is active

A store which leaves a channel ready runs its transfer at once, and a transfer
that completes takes the channel back out of readiness. So the only way for a
channel to be active after a store to one of its registers is that the transfer
has failed, and nothing but such a store makes a difference to it.
-/

namespace Playstation

/-- The end of a transfer takes its channel out of readiness and leaves the
others. -/
theorem Dma.isActive_complete (dma : Dma) (port other : Port) :
    ((dma.complete port).channel other).isActive =
      if other = port then false else (dma.channel other).isActive := by
  have hchannel : (dma.complete port).channel other =
      (dma.setChannel port (dma.channel port).finish).channel other := rfl
  rw [hchannel, channel_setChannel]
  by_cases h : other = port
  · rw [if_pos h, if_pos h]
    rfl
  · rw [if_neg h, if_neg h]

namespace Bus

variable {bus : Bus} {w : Width} {offset value : UInt32} {register : DmaRegister}

/-- A transfer makes its channel inactive, unless it fails, and leaves the
other channels as they are. -/
theorem isActive_transfer {port : Port} (hactive : (bus.dma.channel port).isActive = true)
    (other : Port) :
    ((bus.transfer port).1.dma.channel other).isActive =
      if other = port then (bus.transfer port).2.any DmaFault.failsTransfer
      else (bus.dma.channel other).isActive := by
  rcases bus.transfer_cases port with ⟨hdone, hdma⟩ | ⟨fault, hfailed, hfault, hdma⟩
  · rw [hdone, hdma, Dma.isActive_complete]
    rfl
  · rw [hfailed, hdma, Option.any_some, hfault]
    split
    · next heq => rw [heq, hactive]
    · rfl

/-- A store to a register of the controller is refused for its sync mode and
changes nothing, or makes the channel of the register active if its transfer
fails and inactive otherwise, and leaves the other channels as they are. -/
theorem isActive_storeDma (h : DmaRegister.ofOffset? (offset &&& 0xfffffffc) = some register)
    (port : Port) :
    (∃ number, bus.storeDma w offset value = (bus, some (.invalidSyncMode number))) ∨
      (∀ number, (bus.storeDma w offset value).2 ≠ some (.invalidSyncMode number)) ∧
        ((bus.storeDma w offset value).1.dma.channel port).isActive =
          if register.port? = some port then
            (bus.storeDma w offset value).2.any DmaFault.failsTransfer
          else (bus.dma.channel port).isActive := by
  obtain hrefused | ⟨word, dma, -, hwrite, hstore⟩ := @storeDma_cases bus w offset value register h
  · exact .inl hrefused
  right
  rw [hstore]
  by_cases hport : register.port? = some port
  · rw [dma.ready?_eq hport, if_pos hport]
    cases hactive : (dma.channel port).isActive with
    | true =>
      refine ⟨transfer_ne_invalidSyncMode _ port, ?_⟩
      exact (isActive_transfer hactive port).trans (if_pos rfl)
    | false =>
      refine ⟨?_, hactive⟩
      intro number hfault
      cases hfault
  · have hkept : (dma.channel port).isActive = (bus.dma.channel port).isActive := by
      rw [Dma.channel_write hwrite hport]
    rw [if_neg hport]
    cases hready : dma.ready? register with
    | none =>
      refine ⟨?_, hkept⟩
      intro number hfault
      cases hfault
    | some other =>
      obtain ⟨hother, hactive⟩ := Option.filter_eq_some_iff.mp hready
      have hne : port ≠ other := fun heq => hport (heq ▸ hother)
      refine ⟨transfer_ne_invalidSyncMode _ other, ?_⟩
      exact ((isActive_transfer hactive port).trans (if_neg hne)).trans hkept

namespace Access

/-- Whether the operation is a store to a register of the channel of a port
that is not refused for its sync mode. -/
def accepted (access : Access) (port : Port) : Bool :=
  match access.fault? with
  | some (.dma (.invalidSyncMode _)) => false
  | _ => access.operation.register?.bind DmaRegister.port? = some port

/-- Whether the operation is refused because a transfer has failed. -/
def transferFailed (access : Access) : Bool :=
  match access.fault? with
  | some (.dma fault) => fault.failsTransfer
  | _ => false

/-- An operation leaves a channel active if it is an accepted store to one of
its registers and the transfer fails; other operations leave it as it is. -/
theorem isActive_after (access : Access) (port : Port) :
    (access.after.dma.channel port).isActive =
      if access.accepted port then access.transferFailed
      else (access.bus.dma.channel port).isActive := by
  cases hregister : access.operation.register? with
  | none =>
    have hrejected : access.accepted port = false := by
      rw [accepted, hregister]
      split <;> rfl
    rw [hrejected, access.after_dma hregister]
    rfl
  | some register =>
    obtain ⟨w, offset, value, hoffset, hafter, hfault⟩ := access.stores_of_register hregister
    rcases @isActive_storeDma access.bus w offset value register hoffset port with
      ⟨number, hrefused⟩ | ⟨hmode, hactive⟩
    · have hrejected : access.accepted port = false := by
        rw [accepted, hfault, hrefused]
        rfl
      rw [hrejected, hafter, hrefused]
      rfl
    · have haccepted : access.accepted port = decide (register.port? = some port) := by
        rw [accepted, hfault, hregister]
        split
        · next number hsync =>
          obtain ⟨fault, hdma, heq⟩ := Option.map_eq_some_iff.mp hsync
          cases heq
          exact absurd hdma (hmode number)
        · rfl
      have hfailed : access.transferFailed =
          (access.bus.storeDma w offset value).2.any DmaFault.failsTransfer := by
        rw [transferFailed, hfault]
        cases (access.bus.storeDma w offset value).2 <;> rfl
      rw [haccepted, hfailed, hafter, hactive]
      by_cases hport : register.port? = some port
      · rw [if_pos hport, if_pos (decide_eq_true hport)]
      · rw [if_neg hport, if_neg (by rw [decide_eq_true_eq]; exact hport)]

end Access

/-- From a bus with an inactive channel, the channel is active after a sequence
of operations if the last accepted store to one of its registers has failed to
transfer. -/
theorem isActive_performAll {port : Port} (h : (bus.dma.channel port).isActive = false)
    (operations : List Operation) :
    ((bus.performAll operations).dma.channel port).isActive = true ↔
      ∃ access ∈ ((bus.accesses operations).filter (·.accepted port)).getLast?,
        access.transferFailed = true := by
  -- From the back: the last operation decides, or makes no difference.
  induction operations using List.reverseRecOn with
  | nil =>
    constructor
    · intro hactive
      exact absurd hactive (Bool.eq_false_iff.mp h)
    · rintro ⟨access, haccess, -⟩
      cases haccess
  | append_singleton operations operation ih =>
    obtain ⟨last, hlast⟩ : ∃ last : Access, last = ⟨bus.performAll operations, operation⟩ :=
      ⟨_, rfl⟩
    have hbus : last.bus = bus.performAll operations := by rw [hlast]
    rw [performAll_concat, accesses_concat, List.filter_append, ← hlast, Access.isActive_after,
      hbus]
    cases haccepted : last.accepted port with
    | true =>
      have hkept : [last].filter (·.accepted port) = [last] := List.filter_cons_of_pos haccepted
      rw [hkept, List.getLast?_concat, if_pos rfl]
      constructor
      · intro hfailed
        exact ⟨_, rfl, hfailed⟩
      · rintro ⟨access, haccess, hfailed⟩
        cases haccess
        exact hfailed
    | false =>
      have hdropped : [last].filter (·.accepted port) = [] :=
        List.filter_cons_of_neg (Bool.eq_false_iff.mp haccepted)
      rw [hdropped, List.append_nil, if_neg Bool.false_ne_true]
      exact ih

/-- No channel is active at power on. -/
theorem isActive_powerOn (bios : Bios) (port : Port) :
    ((powerOn bios).dma.channel port).isActive = false := by
  cases port <;> rfl

/-- After any sequence of operations from power on, a channel is active if and
only if there has been a store to one of its registers which was not refused
for its sync mode, and the last such store has failed to transfer. So no channel
is ever active as long as no transfer has failed. -/
theorem isActive_iff_lastFailed (bios : Bios) (operations : List Operation) :
    (∀ port, (((powerOn bios).performAll operations).dma.channel port).isActive = true ↔
        ∃ access ∈ (((powerOn bios).accesses operations).filter (·.accepted port)).getLast?,
          access.transferFailed = true) ∧
      ((∀ access ∈ (powerOn bios).accesses operations, access.transferFailed = false) →
        ∀ done, done <+: operations → ∀ port,
          (((powerOn bios).performAll done).dma.channel port).isActive = false) := by
  refine ⟨fun port => isActive_performAll (isActive_powerOn bios port) operations, ?_⟩
  intro hnone done hdone port
  refine Bool.eq_false_iff.mpr fun hactive => ?_
  obtain ⟨access, hlast, hfailed⟩ :=
    (isActive_performAll (isActive_powerOn bios port) done).mp hactive
  have haccess : access ∈ (powerOn bios).accesses done :=
    (List.mem_filter.mp (List.mem_of_getLast? hlast)).1
  rw [hnone access (((powerOn bios).accesses_mono hdone).mem haccess)] at hfailed
  cases hfailed

/-- A block cannot be sent to the sound processor, to which neither a store
refused for its sync mode nor one to another channel makes a difference. A
start address alone starts nothing. -/
theorem isActive_iff_lastFailed_spu :
    (((powerOn (.ofWord 0)).performAll [.store .word 0x1f8010c8 0x11000001,
        .store .word 0x1f8010c8 0x00000600, .store .word 0x1f8010b0 0]).dma.channel .spu).isActive =
          true ∧
      (∀ access ∈ (powerOn (.ofWord 0)).accesses [.store .word 0x1f8010c0 0x1000],
        access.transferFailed = false) ∧
      (((powerOn (.ofWord 0)).performAll [.store .word 0x1f8010c0 0x1000]).dma.channel
        .spu).isActive = false := by
  have hquiet : ∀ access ∈ (powerOn (.ofWord 0)).accesses [.store .word 0x1f8010c0 0x1000],
      access.transferFailed = false := by
    intro access haccess
    rw [List.mem_singleton.mp haccess]
    rfl
  exact ⟨((isActive_iff_lastFailed _ _).1 .spu).mpr ⟨_, rfl, rfl⟩, hquiet,
    (isActive_iff_lastFailed _ _).2 hquiet _ List.prefix_rfl .spu⟩

end Bus

end Playstation
