import Playstation.Proofs.Dma.Store

/-!
# How far a transfer reaches

A transfer moves words to the graphics processor or clears the ordering table in
main memory, by the port of its channel, and the controller notes its end in that
channel and in one interrupt flag. Nothing else on the bus has to do with it.
-/

namespace Playstation

open MachineWord

/-- One controller comes from another by the end of the transfer on a port, if
at all, and nothing else is different. -/
structure Dma.Finishes (before after : Dma) (port : Port) : Prop where
  /-- The shared control register is kept. -/
  control : after.control = before.control
  /-- The channels of other ports are kept. -/
  channels : ∀ other ≠ port, after.channel other = before.channel other
  /-- Of its channel only the flags that start it can differ. -/
  channel : ∃ enable trigger, after.channel port = { before.channel port with enable, trigger }
  /-- Of the interrupt register only flags can differ. -/
  interrupts : ∃ flags, after.interrupts = { before.interrupts with flags }
  /-- Of the flags only that of the port can differ. -/
  flags : ∀ i < 8, i ≠ port.index.val →
    bit after.interrupts.flags i = bit before.interrupts.flags i

namespace Dma

/-- Nothing has to be different. -/
theorem Finishes.refl (dma : Dma) (port : Port) : dma.Finishes dma port where
  control := rfl
  channels _ _ := rfl
  channel := ⟨_, _, rfl⟩
  interrupts := ⟨_, rfl⟩
  flags _ _ _ := rfl

/-- A completed transfer clears the two flags of its channel and may set its
interrupt flag. -/
theorem finishes_complete (dma : Dma) (port : Port) : dma.Finishes (dma.complete port) port where
  control := rfl
  channels other hother := by
    have hkept := dma.channel_setChannel port other (dma.channel port).finish
    rw [if_neg hother] at hkept
    exact hkept
  channel := ⟨false, false, dma.channel_setChannel_self port (dma.channel port).finish⟩
  interrupts := by
    rw [complete, Interrupts.complete]
    dsimp only
    split
    · exact ⟨_, rfl⟩
    · exact ⟨_, rfl⟩
  flags i hi hother := by
    have hport := port.index.isLt
    rw [complete, Interrupts.complete]
    dsimp only
    split
    · rw [bit_eq _ _ hi, bit_eq _ _ hi]
      exact (getLsbD_setBit _ (show port.index.val < 8 by omega) true i).trans (if_neg hother)
    · rfl

end Dma

namespace Bus

/-- What the transfer of the channel of a port touches, completed or not. -/
structure TransferTouches (bus : Bus) (port : Port) (after : Bus) : Prop where
  /-- There are three components it can reach. -/
  rest : ∃ ram gpu dma, after = { bus with ram, gpu, dma }
  /-- The graphics processor takes part through its own port only. -/
  gpu : port ≠ .gpu → after.gpu = bus.gpu
  /-- The ordering table is all of main memory that is written. -/
  ram : port ≠ .otc → after.ram = bus.ram
  /-- The end of the transfer is all that the controller notes. -/
  dma : bus.dma.Finishes after.dma port

/-- A block is moved between main memory and the graphics processor, or
cleared. -/
theorem touches_transferBlock (bus : Bus) (port : Port) (size : Nat) :
    bus.TransferTouches port (bus.transferBlock port size).1 := by
  fun_cases Bus.transferBlock bus port size with
  | case1 => exact ⟨⟨_, _, _, rfl⟩, fun h => absurd rfl h, fun _ => rfl, .refl _ _⟩
  | case2 => exact ⟨⟨_, _, _, rfl⟩, fun _ => rfl, fun h => absurd rfl h, .refl _ _⟩
  | case3 => exact ⟨⟨_, _, _, rfl⟩, fun _ => rfl, fun _ => rfl, .refl _ _⟩

/-- A list is read by the graphics processor. -/
theorem touches_transferList (bus : Bus) (port : Port) :
    bus.TransferTouches port (bus.transferList port).1 := by
  fun_cases Bus.transferList bus port with
  | case1 => exact ⟨⟨_, _, _, rfl⟩, fun h => absurd rfl h, fun _ => rfl, .refl _ _⟩
  | case2 => exact ⟨⟨_, _, _, rfl⟩, fun _ => rfl, fun _ => rfl, .refl _ _⟩

/-- A transfer moves words and then marks its channel as done, if it does not
fail. -/
theorem touches_transfer (bus : Bus) (port : Port) :
    bus.TransferTouches port (bus.transfer port).1 := by
  obtain ⟨outcome, houtcome, hrun⟩ := bus.exists_outcome port
  have hmoves : bus.TransferTouches port outcome.1 ∧ outcome.1.dma = bus.dma := by
    rcases houtcome with ⟨size, rfl⟩ | rfl
    · exact ⟨bus.touches_transferBlock port size, (bus.transferBlock_dma port size).1⟩
    · exact ⟨bus.touches_transferList port, (bus.transferList_dma port).1⟩
  obtain ⟨⟨⟨ram, gpu, dma, hrest⟩, hgpu, hram, hfinishes⟩, hdma⟩ := hmoves
  rw [hrun]
  rcases outcome with ⟨after, _ | fault⟩
  · dsimp only at hrest hgpu hram hdma
    subst hrest
    cases hdma
    exact ⟨⟨_, _, _, rfl⟩, hgpu, hram, bus.dma.finishes_complete port⟩
  · exact ⟨⟨ram, gpu, dma, hrest⟩, hgpu, hram, hfinishes⟩

end Bus

end Playstation
