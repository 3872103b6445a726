import Playstation.Proofs.Bus.Refusal
import Playstation.Proofs.Dma.OrderingTable
import Playstation.Proofs.Dma.TableControl

/-!
# The transfer of the ordering table

A store to the control register of the ordering table which enables and starts the
channel writes the table and nothing else of main memory, and leaves the other
devices alone. The registers of the channel never allow another transfer than this
one, so no store to them is refused. Both hold of every bus that operations lead to.
-/

namespace Playstation

open MachineWord

/-- A table of `count` entries from `base` down is written to main memory. -/
structure Ram.TableWritten (before after : Ram) (base : UInt32) (count : Nat) : Prop where
  /-- The last entry is the end marker, and the others point one word down. -/
  entries : ∀ i < count, after.load .word ((base - 4 * UInt32.ofNat i) &&& 0x1ffffc).toNat =
    if i = count - 1 then 0x00ffffff else (base - 4 * UInt32.ofNat (i + 1)) &&& 0x1fffff
  /-- No two entries are at one address. -/
  apart : ∀ i < count, ∀ j < count, i ≠ j →
    (base - 4 * UInt32.ofNat i) &&& 0x1ffffc ≠ (base - 4 * UInt32.ofNat j) &&& 0x1ffffc
  /-- The bytes on which no entry falls are kept. -/
  kept : ∀ k < Playstation.ramSize,
    (∀ i < count, k < ((base - 4 * UInt32.ofNat i) &&& 0x1ffffc).toNat ∨
      ((base - 4 * UInt32.ofNat i) &&& 0x1ffffc).toNat + 4 ≤ k) →
    after.get k = before.get k

/-- Clearing a table which fits into main memory writes it. -/
theorem tableWritten_clearTable (ram : Ram) (base : UInt32) {count : Nat}
    (hcount : count ≤ maxListNodes) :
    ram.TableWritten (clearTable 0xfffffffc count base ram) base count where
  entries i hi := by
    have hentry := holdsTable_clearTable count base ram hcount i hi
    refine hentry.trans ?_
    rw [tableEntry]
    by_cases hlast : i = count - 1
    · rw [if_pos hlast, if_pos (beq_iff_eq.mpr (by omega))]
    · have hmore : (i + 1 == count) = false := beq_eq_false_iff_ne.mpr (by omega)
      have hdown : entryAddress base i - 4 = entryAddress base (i + 1) :=
        (UInt32.sub_eq_add_neg _ _).trans (entryAddress_below base i).symm
      rw [if_neg hlast, hmore, if_neg Bool.false_ne_true, hdown]
      rfl
  apart i hi j hj hne heq :=
    hne ((wordOffset_entryAddress_inj (by omega) (by omega)).mp heq)
  kept k hk houtside := get_clearTable_of_outside hk count base ram houtside

/-- The transfer of a channel which is like that of the ordering table has the length of
a table. -/
theorem Channel.IsTable.transferSize? {channel : Channel} {written : Prop}
    (h : channel.IsTable written) :
    channel.transferSize? = some (tableLength channel.blockSize) := by
  cases h <;> rfl

namespace Dma

variable {dma after : Dma} {register : DmaRegister} {port : Port} {value : UInt32}

/-- The address of every channel has 24 bits. -/
def BasesFit (dma : Dma) : Prop := ∀ port, (dma.channel port).base.toNat < 2 ^ 24

/-- It has so many if those of a channel that is replaced and of the one in its
place have. -/
theorem BasesFit.setChannel (h : dma.BasesFit) {channel : Channel}
    (hchannel : channel.base.toNat < 2 ^ 24) : (dma.setChannel port channel).BasesFit := by
  intro other
  rw [channel_setChannel]
  split
  · exact hchannel
  · exact h other

/-- A write cuts an address off. -/
theorem BasesFit.write (h : dma.BasesFit) (hwrite : dma.write register value = .ok after) :
    after.BasesFit := by
  cases register with
  | base port =>
    cases hwrite
    exact h.setChannel (toNat_bits_lt (by decide) (by decide))
  | blockControl port =>
    cases hwrite
    exact h.setChannel (h port)
  | channelControl port =>
    rw [Dma.write] at hwrite
    split at hwrite
    · next channel hset =>
      obtain ⟨sync, -, rfl⟩ := Option.map_eq_some_iff.mp hset
      cases hwrite
      exact h.setChannel (h port)
    · cases hwrite
  | control | interrupt =>
    cases hwrite
    exact h

/-- An operation keeps the addresses short. -/
theorem BasesFit.perform (h : dma.BasesFit) (operation : Operation) :
    (dma.perform operation).BasesFit := by
  cases operation with
  | complete port =>
    have hfinish : (dma.setChannel port (dma.channel port).finish).BasesFit :=
      h.setChannel (h port)
    exact hfinish
  | store offset value =>
    rcases dma.perform_store_cases offset value with ⟨hkept, -⟩ | ⟨register, -, hwrite⟩
    · rw [hkept]
      exact h
    · exact h.write hwrite

/-- So does a sequence of operations. -/
theorem BasesFit.performAll (h : dma.BasesFit) (operations : List Operation) :
    (dma.performAll operations).BasesFit := by
  induction operations generalizing dma with
  | nil => exact h
  | cons operation operations ih => exact ih (h.perform operation)

/-- At power on the addresses are zero. -/
theorem basesFit_powerOn : powerOn.BasesFit := by
  intro port
  cases port <;> decide

/-- No write of a register of the ordering table is refused. -/
theorem exists_write_table (dma : Dma) (value : UInt32) (h : register.port? = some .otc) :
    ∃ after, dma.write register value = .ok after := by
  cases hwrite : dma.write register value with
  | ok after => exact ⟨after, rfl⟩
  | error fault =>
    cases register with
    | base port | blockControl port => cases hwrite
    | channelControl port =>
      cases h
      exact absurd hwrite (dma.write_table_ne_error value fault)
    | control | interrupt => cases h

end Dma

namespace Bus

/-- What the transfer of the ordering table leaves of the bus. -/
structure TransfersTable (bus after : Bus) : Prop where
  /-- The table is as long as the size says, or of the greatest length. -/
  table : bus.ram.TableWritten after.ram (bus.dma.channel .otc).base
    (if (bus.dma.channel .otc).blockSize = 0 then 0x10000
      else (bus.dma.channel .otc).blockSize.toNat)
  /-- The controller is all else that changes. -/
  rest : after = { bus with ram := after.ram, dma := after.dma }
  /-- The other channels are kept. -/
  channels : ∀ port ≠ .otc, after.dma.channel port = bus.dma.channel port
  /-- The channel is idle. -/
  idle : (after.dma.channel .otc).enable = false ∧ (after.dma.channel .otc).trigger = false
  /-- It keeps its address. -/
  base : (after.dma.channel .otc).base = (bus.dma.channel .otc).base
  /-- It keeps its size. -/
  blockControl : (after.dma.channel .otc).blockControl = (bus.dma.channel .otc).blockControl

variable {bus : Bus} {w : Width} {address value : UInt32} {dma : Dma} {written : Prop}
  {register : DmaRegister}

/-- A store to a register of the ordering table is accepted, whether it starts the
channel or not. -/
theorem store_table_accepted (htable : (bus.dma.channel .otc).IsTable written)
    (h : (Operation.store w address value).register? = some register)
    (hport : register.port? = some .otc) : (bus.store w address value).2 = none := by
  obtain ⟨⟨haligns, hregion⟩, hoffset⟩ := Operation.register?_store_eq_some.mp h
  obtain ⟨word, hword⟩ := @exists_dmaStoreValue bus w _ value register hoffset
  obtain ⟨dma, hwrite⟩ := bus.dma.exists_write_table word hport
  by_cases hactive : (dma.channel .otc).isActive = true
  · have hstarts : bus.Starts w address value .otc dma :=
      ⟨haligns, hregion, ⟨register, word, hoffset, hport, hword, hwrite⟩, hactive⟩
    have hwritten := Dma.isTable_write htable hwrite
    rw [hstarts.store_table hwritten.transferSize? hwritten.showsTable.direction]
  · have hready : dma.ready? register = none := by
      rw [dma.ready?_eq hport, if_neg hactive]
    rw [store_of_dma haligns hregion, storeDma_of_write hoffset hword hwrite, hready]
    rfl

/-- No store is refused for a transfer of the ordering table. -/
theorem store_ne_tableFault (htable : (bus.dma.channel .otc).IsTable written)
    (direction : Direction) :
    (bus.store w address value).2 ≠ some (.dma (.unsupportedTransfer .otc direction)) ∧
      (bus.store w address value).2 ≠ some (.dma (.invalidLinkedList .otc direction)) := by
  -- A fault of a transfer names its port, so a register of that port has been written.
  have hstarts {dma : Dma} (h : bus.Starts w address value .otc dma) :
      (bus.store w address value).2 = none := by
    obtain ⟨register, hregister, hport, -⟩ := h.differsIn
    exact store_table_accepted htable hregister hport
  constructor
  all_goals
    intro hfault
    obtain ⟨-, hkept⟩ | ⟨port, dma, reason, hreason, hstart, hfails⟩ := store_refused hfault
    · cases hkept
    · cases hreason
      obtain ⟨rfl, -⟩ := hfails
      rw [hstarts hstart] at hfault
      cases hfault

/-- A store of any width which enables and starts the channel of the ordering table
is accepted and transfers the table. -/
theorem store_transfers_table {word : UInt32}
    (h : (Operation.store w address value).register? = some (.channelControl .otc))
    (hword : bus.dmaStoreValue w (Region.dma.offsetOf (physical address)) value = .ok word)
    (henable : bit word 24 = true) (htrigger : bit word 28 = true) :
    (bus.store w address value).2 = none ∧
      bus.TransfersTable (bus.store w address value).1 := by
  have hfits : tableLength (bus.dma.channel .otc).blockSize ≤ maxListNodes :=
    Nat.le_trans (tableLength_bounds _).2 (by decide)
  have hfinished (dma : Dma) (port : Port) : (dma.complete .otc).channel port =
      if port = .otc then (dma.channel .otc).finish else dma.channel port :=
    dma.channel_setChannel .otc port (dma.channel .otc).finish
  rw [store_clears_table h hword henable htrigger]
  refine ⟨rfl, tableWritten_clearTable _ _ hfits, rfl, fun port hport => ?_, ?_, ?_, ?_⟩
  · rw [hfinished, if_neg hport, Dma.channel_setChannel, if_neg hport]
  all_goals
    rw [hfinished, if_pos rfl, Dma.channel_setChannel_self]
    first | rfl | exact ⟨rfl, rfl⟩

/-- After every sequence of operations the address of the channel of the ordering table
has 24 bits. A store of any width which then enables and starts the channel is accepted
and transfers the table. A store to a register of the channel is accepted whatever it
writes, and no store at all is refused for a transfer of that channel. -/
theorem table_transfer_exact (bios : Bios) (operations : List Operation) (w : Width)
    (address value : UInt32) :
    let bus := (powerOn bios).performAll operations
    let outcome := bus.store w address value
    (bus.dma.channel .otc).base.toNat < 2 ^ 24 ∧
    ((Operation.store w address value).register? = some (.channelControl .otc) →
      ∀ word, bus.dmaStoreValue w (Region.dma.offsetOf (physical address)) value = .ok word →
        bit word 24 = true → bit word 28 = true →
        outcome.2 = none ∧ bus.TransfersTable outcome.1) ∧
    (∀ register, (Operation.store w address value).register? = some register →
      register.port? = some .otc → outcome.2 = none) ∧
    ∀ direction, outcome.2 ≠ some (.dma (.unsupportedTransfer .otc direction)) ∧
      outcome.2 ≠ some (.dma (.invalidLinkedList .otc direction)) := by
  intro bus outcome
  obtain ⟨done, hdma, -⟩ := (powerOn bios).exists_performAll_dma operations
  have htable : (bus.dma.channel .otc).IsTable _ := hdma ▸ Dma.isTable_performAll done
  have hfit : bus.dma.BasesFit := hdma ▸ Dma.basesFit_powerOn.performAll done
  refine ⟨hfit .otc, ?_, ?_, store_ne_tableFault htable⟩
  · exact fun h word hword henable htrigger => store_transfers_table h hword henable htrigger
  · exact fun register h hport => store_table_accepted htable h hport

/-- At power on the base and the size are zero, so that a store of the byte with the two
flags writes a table of the greatest length, which wraps around below address zero: its
second entry is at the end of main memory. -/
theorem table_transfer_powerOn :
    let bus := (powerOn (.ofWord 0)).performAll []
    let outcome := bus.store .byte 0x1f8010eb 0x11
    outcome.2 = none ∧ bus.TransfersTable outcome.1 ∧
      outcome.1.ram.load .word 0x1ffffc = 0x1ffff8 := by
  intro bus outcome
  obtain ⟨haccepted, htransfers⟩ : outcome.2 = none ∧ bus.TransfersTable outcome.1 :=
    (table_transfer_exact (.ofWord 0) [] .byte 0x1f8010eb 0x11).2.1 (by decide) 0x11000000 rfl
      (by decide) (by decide)
  have hbase : (bus.dma.channel .otc).base = 0 := rfl
  have hsize : (bus.dma.channel .otc).blockSize = 0 := rfl
  have htable := htransfers.table
  rw [hbase, hsize, if_pos rfl] at htable
  have hplace : ((0 - 4 * UInt32.ofNat 1) &&& 0x1ffffc).toNat = 0x1ffffc := by decide
  have hnext : (0 - 4 * UInt32.ofNat (1 + 1)) &&& 0x1fffff = 0x1ffff8 := by decide
  have hsecond := (htable.entries 1 (by decide)).trans (if_neg (by decide))
  rw [hplace, hnext] at hsecond
  exact ⟨haccepted, htransfers, hsecond⟩

end Bus

end Playstation
