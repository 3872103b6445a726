import Playstation.Proofs.Dma.OrderingTable

/-!
# Blocks for the graphics processor

A block is a row of words in main memory, upwards or downwards from the base of
the channel, which wraps around at the ends of main memory. The main statement
is that a store which starts such a block is the same to the graphics processor
as writing the words of the block to the drawing port one by one, and that
besides it only the channel notices the transfer.
-/

namespace Playstation

/-- Address of word number `i` of a block from `base`. -/
def Step.address (step : Step) (base : UInt32) (i : Nat) : UInt32 :=
  match step with
  | increment => base + 4 * UInt32.ofNat i
  | decrement => base - 4 * UInt32.ofNat i

namespace Step

/-- The first word is at the base. -/
theorem address_zero (step : Step) (base : UInt32) : step.address base 0 = base := by
  cases step with
  | increment => exact UInt32.add_zero base
  | decrement => exact UInt32.sub_zero base

/-- Each word is one step behind the one before. -/
theorem address_succ (step : Step) (base : UInt32) (i : Nat) :
    step.address base (i + 1) = step.address (base + step.amount) i := by
  cases step with
  | increment =>
    have hnext : (4 : UInt32) * UInt32.ofNat (i + 1) = 4 + 4 * UInt32.ofNat i := by
      rw [UInt32.ofNat_add, UInt32.mul_add, UInt32.add_comm]
      rfl
    rw [address, address, hnext, ← UInt32.add_assoc]
    rfl
  | decrement => exact entryAddress_succ base i

end Step

/-- The words of a block in main memory, in the order of the transfer. Each is the word
its address falls on, and addresses wrap around at the end of main memory. -/
def Ram.blockWords (ram : Ram) (step : Step) (base : UInt32) (count : Nat) : List UInt32 :=
  (List.range count).map fun i => ram.load .word (step.address base i &&& 0x1ffffc).toNat

/-- The first word of a block comes before those of the block behind it. -/
theorem Ram.blockWords_succ (ram : Ram) (step : Step) (base : UInt32) (count : Nat) :
    ram.blockWords step base (count + 1) =
      ram.load .word (base &&& 0x1ffffc).toNat ::
        ram.blockWords step (base + step.amount) count := by
  rw [blockWords, List.range_succ_eq_map, List.map_cons, List.map_map, Step.address_zero]
  simp only [Function.comp_def, Nat.succ_eq_add_one, Step.address_succ]
  rfl

/-- The words of a block arrive one by one. -/
theorem foldBlock_eq {σ : Type} (receive : σ → UInt32 → σ) (ram : Ram) (step : Step) (count : Nat)
    (base : UInt32) (state : σ) :
    foldBlock receive ram step.amount count base state =
      (ram.blockWords step base count).foldl receive state := by
  induction count generalizing base state with
  | zero => rfl
  | succ count ih =>
    rw [foldBlock, ih, Ram.blockWords_succ, List.foldl_cons]
    rfl

namespace Bus

variable {bus : Bus} {w : Width} {address value : UInt32} {dma : Dma}

/-- The stores which write words to the drawing port. -/
def drawStores (words : List UInt32) : List Operation :=
  words.map (.store .word 0x1f801810)

/-- A word stored to the drawing port reaches the graphics processor. -/
theorem store_drawPort (bus : Bus) (word : UInt32) :
    bus.store .word 0x1f801810 word = ({ bus with gpu := bus.gpu.gp0 word }, none) := by
  have hregion : Region.find? (physical 0x1f801810) = some .gpu := by decide
  have hoffset : Region.gpu.offsetOf (physical 0x1f801810) = 0 := by decide
  have hshift : byteShift 0 = 0 := by decide
  have hword : widen word 0 = word := by rw [widen, hshift, UInt32.shiftLeft_zero]
  rw [store_of_region rfl hregion, storeRegion]
  simp only [hoffset, storeGpu, hword]
  rfl

/-- Words stored to the drawing port reach the graphics processor in order, and
change nothing else. None of the stores is refused. -/
theorem performAll_drawStores (bus : Bus) (words : List UInt32) :
    bus.performAll (drawStores words) = { bus with gpu := words.foldl Gpu.gp0 bus.gpu } ∧
      ∀ access ∈ bus.accesses (drawStores words), access.fault? = none := by
  induction words generalizing bus with
  | nil => exact ⟨rfl, List.forall_mem_nil _⟩
  | cons word words ih =>
    have hfirst : bus.perform (.store .word 0x1f801810 word) =
        ({ bus with gpu := bus.gpu.gp0 word }, none) := bus.store_drawPort word
    obtain ⟨hrest, haccepted⟩ := ih (bus.perform (.store .word 0x1f801810 word)).1
    refine ⟨?_, List.forall_mem_cons.mpr ⟨congrArg Prod.snd hfirst, haccepted⟩⟩
    rw [hfirst] at hrest
    rw [drawStores, List.map_cons, performAll, List.foldl_cons, hfirst]
    exact hrest

/-- The transfer of a block sends its words and completes. -/
theorem transfer_block {count : Nat}
    (hsize : (bus.dma.channel .gpu).transferSize? = some count)
    (hdirection : (bus.dma.channel .gpu).direction = .fromRam) :
    bus.transfer .gpu =
      ({ bus with
          dma := bus.dma.complete .gpu
          gpu := (bus.ram.blockWords (bus.dma.channel .gpu).step (bus.dma.channel .gpu).base
            count).foldl Gpu.gp0 bus.gpu },
        none) := by
  rw [transfer]
  simp only [hsize, transferBlock, hdirection, sendBlock, foldBlock_eq]

/-- A store which starts a block for the graphics processor is accepted. It
leaves the processor as the words of the block do which are written to the
drawing port in order, each at its address modulo the size of main memory, and
so as word stores of these words do. The channel is no longer enabled or
triggered, and keeps the base and the size which the store has found or written.
Nothing else on the bus changes but the interrupt register, and the other
channels are as before. -/
theorem store_block_exact {count : Nat} (hstart : bus.Starts w address value .gpu dma)
    (hdirection : (dma.channel .gpu).direction = .fromRam)
    (hcount : ((dma.channel .gpu).sync = .manual ∧
        count = if (dma.channel .gpu).blockSize = 0 then 0x10000
          else (dma.channel .gpu).blockSize.toNat) ∨
      ((dma.channel .gpu).sync = .request ∧
        count = (dma.channel .gpu).blockSize.toNat * (dma.channel .gpu).blockCount.toNat)) :
    let channel := dma.channel .gpu
    let words := bus.ram.blockWords channel.step channel.base count
    let after := (bus.store w address value).1
    (bus.store w address value).2 = none ∧
    after = { bus with dma := after.dma, gpu := words.foldl Gpu.gp0 bus.gpu } ∧
    bus.performAll (drawStores words) = { bus with gpu := after.gpu } ∧
    (∀ access ∈ bus.accesses (drawStores words), access.fault? = none) ∧
    (∀ other, other ≠ .gpu → after.dma.channel other = bus.dma.channel other) ∧
    after.dma.channel .gpu = { channel with enable := false, trigger := false } ∧
    ∀ register, register = .base .gpu ∨ register = .blockControl .gpu →
      (Operation.store w address value).register? ≠ some register →
        after.dma.read register = bus.dma.read register := by
  have hsize : (dma.channel .gpu).transferSize? = some count := by
    rw [Channel.transferSize?]
    rcases hcount with ⟨hsync, rfl⟩ | ⟨hsync, rfl⟩ <;> rw [hsync]
  have hstore : bus.store w address value =
      ({ bus with
          dma := dma.complete .gpu
          gpu := (bus.ram.blockWords (dma.channel .gpu).step (dma.channel .gpu).base
            count).foldl Gpu.gp0 bus.gpu },
        none) := by
    rw [hstart.store_eq, @transfer_block { bus with dma } count hsize hdirection]
    rfl
  obtain ⟨hperformed, haccepted⟩ := performAll_drawStores bus
    (bus.ram.blockWords (dma.channel .gpu).step (dma.channel .gpu).base count)
  obtain ⟨register, word, hoffset, hport, -, hwrite⟩ := hstart.write
  intro channel words after
  have hafter : after = { bus with
      dma := dma.complete .gpu, gpu := words.foldl Gpu.gp0 bus.gpu } := congrArg Prod.fst hstore
  refine ⟨congrArg Prod.snd hstore, ?_, ?_, haccepted, ?_, ?_, ?_⟩
  · rw [hafter]
  · rw [hperformed, hafter]
  · intro other hother
    have hregister : register.port? ≠ some other := by
      rw [hport]
      exact fun heq => hother (Option.some.inj heq).symm
    rw [hafter, ← Dma.channel_write hwrite hregister]
    exact (Dma.channel_setChannel _ _ _ _).trans (if_neg hother)
  · rw [hafter]
    exact Dma.channel_setChannel_self _ _ _
  · intro other hother hmissed
    have hreached : (Operation.store w address value).register? = some register :=
      Operation.register?_store_eq_some.mpr ⟨⟨hstart.aligns, hstart.region⟩, hoffset⟩
    have hne : other ≠ register := fun heq => hmissed (heq ▸ hreached)
    have hfinished : (dma.complete .gpu).channel .gpu = channel.finish :=
      Dma.channel_setChannel_self _ _ _
    rw [hafter, ← Dma.read_write hwrite hne]
    rcases hother with rfl | rfl <;> rw [Dma.read, Dma.read, hfinished] <;> rfl

/-- Main memory with two words at its start. -/
def blockRam : Ram := Ram.powerOn.storeWords 0 [0xe1000400, 0xe6000001]

/-- The bus with these words, and with a block of three words set up for the graphics
processor. -/
def blockBus : Bus :=
  { Bus.powerOn (.ofWord 0) with
    ram := blockRam
    dma := Dma.powerOn.setChannel .gpu
      { Channel.powerOn with base := 4, blockSize := 3, blockCount := 1 } }

/-- Two words of the block have been written, and one is as at power on. -/
theorem load_blockRam :
    blockRam.load .word 4 = 0xe6000001 ∧ blockRam.load .word 0 = 0xe1000400 ∧
      blockRam.load .word 0x1ffffc = 0xcacacaca := by
  refine ⟨?_, ?_, ?_⟩
  · exact @Bytes.load_storeWords _ Ram.powerOn 0 1 [0xe1000400, 0xe6000001] _ (by decide) rfl
  · exact @Bytes.load_storeWords _ Ram.powerOn 0 0 [0xe1000400, 0xe6000001] _ (by decide) rfl
  · have hbyte {i : Nat} (h : i < Playstation.ramSize) : Ram.powerOn.get i = 0xca :=
      Bytes.get_filled h
    rw [blockRam, Bytes.storeWords, Bytes.storeWords, Bytes.storeWords,
      Bytes.load_store_word_of_disjoint _ _ (by omega),
      Bytes.load_store_word_of_disjoint _ _ (by omega), Bytes.load, hbyte (by decide),
      hbyte (by decide), hbyte (by decide), hbyte (by decide)]
    rfl

/-- Sent downwards from the second word of main memory, the block wraps around behind the
first one. -/
theorem store_block_powerOn :
    let channel := { blockBus.dma.channel .gpu with
      direction := .fromRam, step := .decrement, sync := .request, enable := true }
    let after := blockBus.store .word 0x1f8010a8 0x01000203
    blockBus.Starts .word 0x1f8010a8 0x01000203 .gpu (blockBus.dma.setChannel .gpu channel) ∧
    after.2 = none ∧
    after.1.gpu = ((Gpu.powerOn.gp0 0xe6000001).gp0 0xe1000400).gp0 0xcacacaca ∧
    blockBus.performAll (drawStores [0xe6000001, 0xe1000400, 0xcacacaca]) =
      { blockBus with gpu := after.1.gpu } ∧
    after.1.dma.channel .gpu = { channel with enable := false } := by
  intro channel after
  have hstart : blockBus.Starts .word 0x1f8010a8 0x01000203 .gpu
      (blockBus.dma.setChannel .gpu channel) :=
    ⟨rfl, by decide, ⟨.channelControl .gpu, 0x01000203, rfl, rfl, rfl, rfl⟩, rfl⟩
  have hwords : blockBus.ram.blockWords .decrement 4 3 =
      [0xe6000001, 0xe1000400, 0xcacacaca] := by
    obtain ⟨hfirst, hsecond, hthird⟩ := load_blockRam
    change [blockRam.load .word 4, blockRam.load .word 0, blockRam.load .word 0x1ffffc] = _
    rw [hfirst, hsecond, hthird]
  obtain ⟨haccepted, hafter, hperformed, -, -, hchannel, -⟩ :=
    store_block_exact hstart rfl (.inr ⟨rfl, rfl⟩)
  have hsent : after.1 = { blockBus with
      dma := after.1.dma
      gpu := (blockBus.ram.blockWords .decrement 4 3).foldl Gpu.gp0 blockBus.gpu } := hafter
  have hdrawn : blockBus.performAll (drawStores (blockBus.ram.blockWords .decrement 4 3)) =
      { blockBus with gpu := after.1.gpu } := hperformed
  rw [hwords] at hsent hdrawn
  exact ⟨hstart, haccepted, congrArg Bus.gpu hsent, hdrawn, hchannel⟩

end Bus

end Playstation
