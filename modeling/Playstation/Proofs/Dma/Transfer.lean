import Playstation.Bus.Access
import Playstation.Proofs.Dma.ListWalk
import Playstation.Proofs.Memory

/-!
# Transfers which a store starts

A store to a register of a channel runs the transfer of that channel if the
written register leaves it ready. The main statement is about lists for the
graphics processor: such a store fails exactly if the chain of nodes has no
last node, and otherwise sends the words of all nodes up to the first last
one, that node included.
-/

namespace Playstation

namespace Bus

/-- A store writes a register of the channel of a port and leaves that channel
ready. The transfer finds the controller as `dma`. -/
structure Starts (bus : Bus) (w : Width) (address value : UInt32) (port : Port) (dma : Dma) :
    Prop where
  /-- The address is a multiple of the width. -/
  aligns : w.aligns address = true
  /-- The address is one of the DMA controller. -/
  region : Region.find? (physical address) = some .dma
  /-- The write of a register of the channel is accepted. -/
  write : ∃ register word,
    DmaRegister.ofOffset? (Region.dma.offsetOf (physical address) &&& 0xfffffffc) = some register ∧
    register.port? = some port ∧
    bus.dmaStoreValue w (Region.dma.offsetOf (physical address)) value = .ok word ∧
    bus.dma.write register word = .ok dma
  /-- The written channel is ready. -/
  active : (dma.channel port).isActive = true

variable {bus : Bus} {w : Width} {address value : UInt32} {port : Port} {dma : Dma}

/-- A store that starts a transfer ends as the transfer does. -/
theorem Starts.store_eq (h : bus.Starts w address value port dma) :
    bus.store w address value =
      ((({ bus with dma } : Bus).transfer port).1,
        (({ bus with dma } : Bus).transfer port).2.map .dma) := by
  obtain ⟨register, word, hregister, hport, hword, hwrite⟩ := h.write
  have hready : dma.ready? register = some port := by
    rw [Dma.ready?, hport, Option.filter_some, if_pos h.active]
  rw [store, if_pos h.aligns, h.region]
  simp only [storeRegion, storeDma, Dma.store, hword, hregister, hwrite, hready]
  rcases ({ bus with dma } : Bus).transfer port with ⟨after, _ | fault⟩ <;> rfl

/-- The clearing of the ordering table writes its entries and completes. -/
theorem transfer_otc {size : Nat} (hsize : (bus.dma.channel .otc).transferSize? = some size)
    (hdirection : (bus.dma.channel .otc).direction = .toRam) :
    bus.transfer .otc =
      ({ bus with
          ram := clearTable (bus.dma.channel .otc).step.amount size (bus.dma.channel .otc).base
            bus.ram
          dma := bus.dma.complete .otc },
        none) := by
  rw [transfer]
  simp only [hsize, transferBlock, hdirection]

/-- The transfer of a list runs along the chain from the base of the
channel. -/
theorem transferList_gpu (hdirection : (bus.dma.channel .gpu).direction = .fromRam) :
    bus.transferList .gpu =
      ({ bus with gpu := (sendList bus.ram (bus.dma.channel .gpu).base bus.gpu).1 },
        if (sendList bus.ram (bus.dma.channel .gpu).base bus.gpu).2 then none
        else some (.malformedLinkedList (bus.dma.channel .gpu).base)) := by
  rw [transferList]
  simp only [hdirection]

/-- A list which ends is sent, and the transfer is completed. -/
theorem transfer_list_of_ended (hsync : (bus.dma.channel .gpu).sync = .linkedList)
    (hdirection : (bus.dma.channel .gpu).direction = .fromRam)
    (hended : (sendList bus.ram (bus.dma.channel .gpu).base bus.gpu).2 = true) :
    bus.transfer .gpu =
      ({ bus with
          dma := bus.dma.complete .gpu
          gpu := (sendList bus.ram (bus.dma.channel .gpu).base bus.gpu).1 },
        none) := by
  have hsize : (bus.dma.channel .gpu).transferSize? = none := by
    rw [Channel.transferSize?, hsync]
  rw [transfer]
  simp only [hsize, transferList_gpu hdirection, hended, if_true]

/-- A list with a last node is sent up to its first one, and the transfer is
completed. -/
theorem transfer_list_of_endsAt {k : Nat} (hsync : (bus.dma.channel .gpu).sync = .linkedList)
    (hdirection : (bus.dma.channel .gpu).direction = .fromRam)
    (h : bus.ram.EndsAt (bus.dma.channel .gpu).base k) :
    bus.transfer .gpu =
      ({ bus with
          dma := bus.dma.complete .gpu
          gpu := (bus.ram.chainWords (bus.dma.channel .gpu).base (k + 1)).foldl Gpu.gp0 bus.gpu },
        none) := by
  have hsend : sendList bus.ram (bus.dma.channel .gpu).base bus.gpu =
      ((bus.ram.chainWords (bus.dma.channel .gpu).base (k + 1)).foldl Gpu.gp0 bus.gpu, true) :=
    foldList_of_endsAt Gpu.gp0 bus.ram bus.gpu h h.lt_maxListNodes
  rw [transfer_list_of_ended hsync hdirection (congrArg Prod.snd hsend), hsend]

/-- A list without last node is refused, and the channel stays ready. -/
theorem transfer_list_of_endless (hsync : (bus.dma.channel .gpu).sync = .linkedList)
    (hdirection : (bus.dma.channel .gpu).direction = .fromRam)
    (h : ∀ i, bit (bus.ram.nodeHeader (bus.dma.channel .gpu).base i) 23 = false) :
    bus.transfer .gpu =
      ({ bus with gpu := (sendList bus.ram (bus.dma.channel .gpu).base bus.gpu).1 },
        some (.malformedLinkedList (bus.dma.channel .gpu).base)) := by
  have hsize : (bus.dma.channel .gpu).transferSize? = none := by
    rw [Channel.transferSize?, hsync]
  have hsend : (sendList bus.ram (bus.dma.channel .gpu).base bus.gpu).2 = false :=
    foldList_of_endless Gpu.gp0 bus.ram maxListNodes bus.gpu h
  rw [transfer]
  simp only [hsize, transferList_gpu hdirection, hsend, Bool.false_eq_true, if_false]

/-- A store that starts a list for the graphics processor is refused exactly
if no header of the chain of nodes from the base of the channel has the mark of
a last node, and then as malformed. A chain with a last node has a first one; the
store sends the words of the chain in order up to and including those of that
node, completes the transfer, and changes nothing else. -/
theorem store_list_exact (hstart : bus.Starts w address value .gpu dma)
    (hsync : (dma.channel .gpu).sync = .linkedList)
    (hdirection : (dma.channel .gpu).direction = .fromRam) :
    ((bus.store w address value).2 =
        some (.dma (.malformedLinkedList (dma.channel .gpu).base)) ↔
      ∀ i, bit (bus.ram.nodeHeader (dma.channel .gpu).base i) 23 = false) ∧
    ((∃ i, bit (bus.ram.nodeHeader (dma.channel .gpu).base i) 23 = true) →
      ∃ k, bus.ram.EndsAt (dma.channel .gpu).base k) ∧
    ∀ k, bus.ram.EndsAt (dma.channel .gpu).base k →
      bus.store w address value =
        ({ bus with
            dma := dma.complete .gpu
            gpu := (bus.ram.chainWords (dma.channel .gpu).base (k + 1)).foldl Gpu.gp0 bus.gpu },
          none) := by
  have hended {k : Nat} (h : bus.ram.EndsAt (dma.channel .gpu).base k) :=
    @transfer_list_of_endsAt { bus with dma } k hsync hdirection h
  rw [hstart.store_eq]
  refine ⟨⟨?_, ?_⟩, fun h => Ram.exists_endsAt h, ?_⟩
  · intro hfault
    by_contra hlast
    simp only [not_forall, Bool.not_eq_false] at hlast
    obtain ⟨k, hk⟩ := Ram.exists_endsAt hlast
    rw [hended hk] at hfault
    simp only [Option.map_none, reduceCtorEq] at hfault
  · intro hnone
    rw [@transfer_list_of_endless { bus with dma } hsync hdirection hnone]
    rfl
  · intro k hk
    rw [hended hk]
    rfl

/-- Main memory with a list of two nodes at its start, the first of them with two words and
the second with one. -/
def listRam : Ram :=
  Ram.powerOn.storeWords 0 [0x02000010, 0xe1000400, 0xe6000001, 0, 0x01ffffff, 0xe3000c03]

/-- A word of the list is found in its place. -/
theorem load_listRam {i : Nat} {word : UInt32}
    (h : [0x02000010, 0xe1000400, 0xe6000001, 0, 0x01ffffff, 0xe3000c03][i]? = some word) :
    listRam.load .word (4 * i) = word := by
  have hload := @Bytes.load_storeWords _ Ram.powerOn 0 i _ _ (by decide) h
  rw [Nat.zero_add] at hload
  exact hload

/-- The store which starts the list sends its three words. -/
theorem store_list_powerOn :
    ({ Bus.powerOn (.ofWord 0) with ram := listRam } : Bus).Starts .word 0x1f8010a8 0x01000401 .gpu
      (Dma.powerOn.setChannel .gpu { Channel.powerOn with
        direction := .fromRam, sync := .linkedList, enable := true }) ∧
    ({ Bus.powerOn (.ofWord 0) with ram := listRam } : Bus).store .word 0x1f8010a8 0x01000401 =
      ({ Bus.powerOn (.ofWord 0) with
          ram := listRam
          dma := (Dma.powerOn.setChannel .gpu { Channel.powerOn with
            direction := .fromRam, sync := .linkedList, enable := true }).complete .gpu
          gpu := ((Gpu.powerOn.gp0 0xe1000400).gp0 0xe6000001).gp0 0xe3000c03 },
        none) := by
  have hstart : ({ Bus.powerOn (.ofWord 0) with ram := listRam } : Bus).Starts .word 0x1f8010a8
      0x01000401 .gpu (Dma.powerOn.setChannel .gpu { Channel.powerOn with
        direction := .fromRam, sync := .linkedList, enable := true }) :=
    ⟨rfl, by decide, ⟨.channelControl .gpu, 0x01000401, rfl, rfl, rfl, rfl⟩, rfl⟩
  have hfirst : listRam.nodeHeader 0 0 = 0x02000010 := @load_listRam 0 _ rfl
  have haddress : listRam.nodeAddress 0 1 = 0x10 := by
    rw [Ram.nodeAddress, ← Ram.nodeHeader, hfirst]
    decide
  have hsecond : listRam.nodeHeader 0 1 = 0x01ffffff := by
    rw [Ram.nodeHeader, haddress]
    exact @load_listRam 4 _ rfl
  have hend : listRam.EndsAt 0 1 := by
    refine ⟨by rw [hsecond]; decide, fun i hi => ?_⟩
    obtain rfl : i = 0 := by omega
    rw [hfirst]
    decide
  have hwords : listRam.chainWords 0 2 = [0xe1000400, 0xe6000001, 0xe3000c03] := by
    have hnode : listRam.nodeWords 0 0x02000010 = [0xe1000400, 0xe6000001] := by
      change [listRam.load .word (4 * 1), listRam.load .word (4 * 2)] = _
      rw [@load_listRam 1 _ rfl, @load_listRam 2 _ rfl]
    have hlast : listRam.nodeWords 0x10 0x01ffffff = [0xe3000c03] := by
      change [listRam.load .word (4 * 5)] = _
      rw [@load_listRam 5 _ rfl]
    have hzero : listRam.nodeAddress 0 0 = 0 := by
      rw [Ram.nodeAddress]
      decide
    have htwo : List.range 2 = [0, 1] := rfl
    rw [Ram.chainWords, htwo, List.flatMap_cons, List.flatMap_cons, List.flatMap_nil, hzero, hfirst,
      hnode, haddress, hsecond, hlast]
    rfl
  refine ⟨hstart, ((store_list_exact hstart rfl rfl).2.2 1 hend).trans ?_⟩
  exact congrArg (fun words => ({ Bus.powerOn (.ofWord 0) with
    ram := listRam
    dma := (Dma.powerOn.setChannel .gpu { Channel.powerOn with
      direction := .fromRam, sync := .linkedList, enable := true }).complete .gpu
    gpu := words.foldl Gpu.gp0 Gpu.powerOn }, none)) hwords

end Bus

end Playstation
