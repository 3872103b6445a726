import Playstation.Proofs.Dma.ChannelRegister
import Playstation.Proofs.Dma.Operation

/-!
# The control register of the ordering table

A write to the control register of the ordering table keeps three bits, and fixes
the others so that the table is written downwards. Nothing but such a write changes
the fixed ones, neither another register nor the end of a transfer. Before the first
write they are as at power on, where the table would be written upwards. This holds
after every sequence of operations of the controller or the bus.
-/

namespace Playstation

open MachineWord

namespace Channel

variable {channel : Channel} {written : Prop}

/-- What the channel of the ordering table can be like before its control register
is written, and after that. -/
inductive IsTable (written : Prop) : Channel → Prop where
  /-- Only the address and the size differ from those at power on. -/
  | fresh (h : ¬written) (channel : Channel) :
    IsTable written (channel.asTable .increment false false false)
  /-- The address goes downwards, and there are three flags. -/
  | written (h : written) (channel : Channel) (enable trigger spare : Bool) :
    IsTable written (channel.asTable .decrement enable trigger spare)

/-- What the control register of the ordering table shows, if it has been written
or has not. -/
structure ShowsTable (channel : Channel) (written : Prop) : Prop where
  /-- The words go to main memory. -/
  direction : channel.direction = .toRam
  /-- They go there all at once. -/
  sync : channel.sync = .manual
  /-- All bits but four are clear. -/
  clear {i : Nat} (hi : i < 32) (hstep : i ≠ 1) (henable : i ≠ 24) (htrigger : i ≠ 28)
    (hspare : i ≠ 30) : bit channel.control i = false
  /-- The address goes downwards if the register has been written. -/
  step : channel.step = .decrement ↔ written
  /-- The register shows this. -/
  bit_step : bit channel.control 1 = true ↔ written
  /-- If it has been written, writing back what it shows changes nothing. -/
  restore (h : written) : setControl? .otc channel channel.control = some channel
  /-- If it has not, it reads as zero. -/
  fresh (h : ¬written) : channel.control = 0

/-- The registers for the address and the size are none of what is fixed. -/
theorem IsTable.setBase (h : IsTable written channel) (value : UInt32) :
    IsTable written (channel.setBase value) := by
  cases h with
  | fresh h channel => exact .fresh h (channel.setBase value)
  | written h channel enable trigger spare =>
    exact .written h (channel.setBase value) enable trigger spare

/-- The same for the size. -/
theorem IsTable.setBlockControl (h : IsTable written channel) (value : UInt32) :
    IsTable written (channel.setBlockControl value) := by
  cases h with
  | fresh h channel => exact .fresh h (channel.setBlockControl value)
  | written h channel enable trigger spare =>
    exact .written h (channel.setBlockControl value) enable trigger spare

/-- The end of a transfer clears two of the flags. -/
theorem IsTable.finish (h : IsTable written channel) : IsTable written channel.finish := by
  cases h with
  | fresh h channel => exact .fresh h channel
  | written h channel enable trigger spare => exact .written h channel false false spare

/-- The control register shows whether it has been written. -/
theorem IsTable.showsTable (h : IsTable written channel) : channel.ShowsTable written := by
  cases h with
  | fresh h channel =>
    have hcontrol : (channel.asTable .increment false false false).control = 0 :=
      show powerOn.control = 0 by decide
    refine ⟨rfl, rfl, fun hi _ _ _ _ => ?_, ⟨nofun, (absurd · h)⟩, ?_, (absurd · h),
      fun _ => hcontrol⟩
    · rw [hcontrol, bit_eq_getLsbD hi]
      exact BitVec.getLsbD_zero
    · rw [hcontrol]
      exact ⟨nofun, (absurd · h)⟩
  | written h channel enable trigger spare =>
    have hcontrol : (channel.asTable .decrement enable trigger spare).control =
        (powerOn.asTable .decrement enable trigger spare).control := rfl
    have hflags : ∀ enable trigger spare : Bool,
        bit (powerOn.asTable .decrement enable trigger spare).control 1 = true ∧
        bit (powerOn.asTable .decrement enable trigger spare).control 24 = enable ∧
        bit (powerOn.asTable .decrement enable trigger spare).control 28 = trigger ∧
        bit (powerOn.asTable .decrement enable trigger spare).control 30 = spare := by
      decide +kernel
    have hclear : ∀ i < 32, i ≠ 1 → i ≠ 24 → i ≠ 28 → i ≠ 30 →
        bit (powerOn.asTable .decrement enable trigger spare).control i = false := by
      cases enable <;> cases trigger <;> cases spare <;> decide +kernel
    obtain ⟨hstep, henable, htrigger, hspare⟩ := hflags enable trigger spare
    refine ⟨rfl, rfl, hclear _, ⟨fun _ => h, fun _ => rfl⟩, ⟨fun _ => h, fun _ => hstep⟩,
      fun _ => ?_, (absurd h ·)⟩
    rw [setControl?_eq_asTable, hcontrol, henable, htrigger, hspare]
    rfl

end Channel

namespace Dma

variable {dma after : Dma} {register : DmaRegister} {value : UInt32} {written : Prop}

/-- A write of the control register of the ordering table is not refused. -/
theorem write_table_ne_error (dma : Dma) (value : UInt32) (fault : DmaFault) :
    dma.write (.channelControl .otc) value ≠ .error fault := by
  rw [write, Channel.setControl?_eq_asTable]
  intro hrefused
  cases hrefused

/-- A write keeps what is fixed, or fixes it. -/
theorem isTable_write (h : Channel.IsTable written (dma.channel .otc))
    (hwrite : dma.write register value = .ok after) :
    Channel.IsTable (written ∨ register = .channelControl .otc) (after.channel .otc) := by
  by_cases hport : register.port? = some .otc
  · cases register with
    | base port =>
      cases hport
      cases hwrite
      rw [channel_setChannel_self, or_iff_left nofun]
      exact h.setBase value
    | blockControl port =>
      cases hport
      cases hwrite
      rw [channel_setChannel_self, or_iff_left nofun]
      exact h.setBlockControl value
    | channelControl port =>
      cases hport
      rw [write, Channel.setControl?_eq_asTable] at hwrite
      cases hwrite
      rw [channel_setChannel_self]
      exact .written (.inr rfl) _ _ _ _
    | control | interrupt => cases hport
  · have hother : register ≠ .channelControl .otc := fun heq => hport (heq ▸ rfl)
    rw [channel_write hwrite hport, or_iff_left hother]
    exact h

/-- The end of a transfer keeps what is fixed. -/
theorem isTable_complete (h : Channel.IsTable written (dma.channel .otc)) (port : Port) :
    Channel.IsTable written ((dma.complete port).channel .otc) := by
  change Channel.IsTable written ((dma.setChannel port (dma.channel port).finish).channel .otc)
  rw [channel_setChannel]
  split
  · next hport => exact hport ▸ h.finish
  · exact h

/-- An operation keeps what is fixed, or is a write that fixes it. -/
theorem isTable_perform (h : Channel.IsTable written (dma.channel .otc)) (operation : Operation) :
    Channel.IsTable (written ∨ operation.register? = some (.channelControl .otc))
      ((dma.perform operation).channel .otc) := by
  cases operation with
  | complete port =>
    rw [or_iff_left nofun]
    exact isTable_complete h port
  | store offset value =>
    rw [Operation.register?]
    rcases dma.perform_store_cases offset value with ⟨hkept, hrefused⟩ | ⟨register, heq, hwrite⟩
    · have hother : DmaRegister.ofOffset? offset ≠ some (.channelControl .otc) := by
        intro htable
        obtain ⟨fault, hfault⟩ := hrefused _ htable
        exact dma.write_table_ne_error value fault hfault
      rw [hkept, or_iff_left hother]
      exact h
    · rw [heq, Option.some.injEq]
      exact isTable_write h hwrite

/-- A sequence of operations fixes the channel if there is such a write among
them. -/
theorem isTable_performAll (operations : List Operation) :
    Channel.IsTable (.channelControl .otc ∈ operations.filterMap Operation.register?)
      ((powerOn.performAll operations).channel .otc) := by
  induction operations using List.reverseRecOn with
  | nil => exact .fresh List.not_mem_nil .powerOn
  | append_singleton operations operation ih =>
    have hlast : .channelControl .otc ∈ [operation].filterMap Operation.register? ↔
        operation.register? = some (.channelControl .otc) := by
      simp
    rw [performAll_append, List.filterMap_append, List.mem_append, hlast]
    exact isTable_perform ih operation

/-- After any sequence of stores to the controller and of transfers that end, and
also after any sequence of operations on the bus, the channel of the ordering table
moves words to main memory, all at once, and every bit of its control register is
clear but for four. If its control register has been written, the bit for going
downwards is set and so is the step, and writing back what the register shows changes
nothing. If it has not, the register is zero. -/
theorem table_control_fixed (operations : List Operation) :
    ((powerOn.performAll operations).channel .otc).ShowsTable
      (.channelControl .otc ∈ operations.filterMap Operation.register?) ∧
    ∀ (bios : Bios) (operations : List Bus.Operation),
      (((Bus.powerOn bios).performAll operations).dma.channel .otc).ShowsTable
        (.channelControl .otc ∈ operations.filterMap Bus.Operation.register?) := by
  refine ⟨(isTable_performAll operations).showsTable, fun bios operations => ?_⟩
  obtain ⟨done, hdma, hdone⟩ := (Bus.powerOn bios).exists_performAll_dma operations
  rw [hdma, ← hdone]
  exact (isTable_performAll done).showsTable

/-- Before the first write the register does not show that the address goes
downwards, as it does not, and writing back what it shows changes that. -/
theorem table_control_powerOn :
    let channel := (powerOn.performAll []).channel .otc
    powerOn.load 0x68 = .ok 0 ∧ bit channel.control 1 = false ∧ channel.step = .increment ∧
      Channel.setControl? .otc channel channel.control ≠ some channel := by
  exact ⟨rfl, by decide, rfl, by decide⟩

example : ((powerOn.perform (.store 0x68 0xffffffff)).channel .otc).control = 0x51000002 := by
  decide

end Dma

end Playstation
