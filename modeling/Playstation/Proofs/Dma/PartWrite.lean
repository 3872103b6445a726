import Playstation.Proofs.Dma.ChannelRegister
import Playstation.Proofs.Dma.Interrupt
import Playstation.Proofs.Dma.Store
import Playstation.Proofs.WordPart

/-!
# Registers written by parts

A narrow store to a register of the DMA controller reads the register, puts its
bytes into what it has read and writes the whole. Bits which the register does
not keep are lost on the way, and flags of the interrupt register are cleared by
ones. It is shown that this makes no difference: a part which is written after a
word has been written is written into that word.
-/

namespace Playstation

open MachineWord

namespace Channel

variable {channel written : Channel} {port : Port} {value word : UInt32} {i : Nat}

/-- Putting a part into the fields of a control register is putting it into the
value they have been written with. -/
theorem getLsbD_controlMask_put {part : WordPart} {read : UInt32}
    (h : ∀ i, Keeps i →
      (toBits read).getLsbD i = (toBits (controlMask port word)).getLsbD i)
    (hi : Keeps i) :
    (toBits (controlMask port (part.put value read))).getLsbD i =
      (toBits (controlMask port (part.put value word))).getLsbD i := by
  have hread := h i hi
  by_cases hport : port = .otc
  · subst hport
    rw [getLsbD_controlMask_otc] at hread
    rw [getLsbD_controlMask_otc, getLsbD_controlMask_otc]
    cases hset : (toBits (0x51000000 : UInt32)).getLsbD i with
    | false => rw [Bool.and_false, Bool.and_false]
    | true =>
      have hclear : (toBits (2 : UInt32)).getLsbD i = false :=
        Puts.not_mem_of_disjoint (by decide) hset
      rw [hset, hclear, Bool.and_true, Bool.or_false] at hread
      rw [WordPart.getLsbD_put hi.lt, WordPart.getLsbD_put hi.lt, hread]
  · rw [controlMask_of_ne_otc hport] at hread
    rw [controlMask_of_ne_otc hport, controlMask_of_ne_otc hport, WordPart.getLsbD_put hi.lt,
      WordPart.getLsbD_put hi.lt, hread]

/-- A control value with a part in it counts the same whether the part is put
into the word that was written or into what is read back of it. -/
theorem setControl?_put (h : setControl? port channel word = some written) (part : WordPart)
    (value : UInt32) :
    setControl? port written (part.put value written.control) =
      setControl? port channel (part.put value word) := by
  have hfields (i : Nat) (hi : Keeps i) : (toBits written.control).getLsbD i =
      (toBits (controlMask port word)).getLsbD i := getLsbD_control h hi
  obtain ⟨sync, -, hwritten⟩ := Option.map_eq_some_iff.mp h
  have hbase : written.base = channel.base := hwritten ▸ rfl
  have hsize : written.blockSize = channel.blockSize := hwritten ▸ rfl
  have hcount : written.blockCount = channel.blockCount := hwritten ▸ rfl
  exact setControl?_congr hbase hsize hcount fun i hi => getLsbD_controlMask_put hfields hi

end Channel

namespace Interrupts

variable {interrupts : Interrupts} {word value : UInt32} {part : WordPart} {i : Nat}

/-- The fields below the flags read as they have been written. -/
theorem getLsbD_read_write (hi : i ≤ 5 ∨ (15 ≤ i ∧ i ≤ 23)) :
    (toBits (interrupts.write word).read).getLsbD i = (toBits word).getLsbD i := by
  have hbyte {low high : Nat} (hle : low ≤ high) (hhigh : high < 32) (hlength : high - low < 8)
      (hinside : low ≤ i ∧ i ≤ high) :
      (toBits (bits word low high).toUInt8).getLsbD (i - low) = (toBits word).getLsbD i := by
    rw [getLsbD_toUInt8_bits _ hle hhigh hlength, Nat.add_sub_cancel' hinside.1,
      decide_eq_true (by omega), Bool.and_true]
  have hsame {n : Nat} (hn : n < 32) (heq : i = n) : bit word n = (toBits word).getLsbD i := by
    rw [bit_eq_getLsbD hn, heq]
  rw [getLsbD_read, if_neg (by omega), if_neg (by omega)]
  split_ifs with hmaster henabled hforce
  · exact hsame (by decide) hmaster
  · exact hbyte (by decide) (by decide) (by decide) henabled
  · exact hsame (by decide) hforce
  · exact hbyte (by decide) (by decide) (by decide) ⟨Nat.zero_le i, by omega⟩

/-- A narrow store puts its bytes into the register without the flags. -/
theorem getLsbD_withoutFlags (x : UInt32) (i : Nat) :
    (toBits (x &&& 0x00ffffff)).getLsbD i = ((toBits x).getLsbD i && decide (i < 24)) := by
  have hmask : (0x00ffffff : UInt32) = lowMask 24 := by decide
  rw [hmask, getLsbD_and, getLsbD_lowMask (by decide) (by decide)]

/-- What a word acknowledges and a part after it is what the word with the part
in it acknowledges. -/
theorem flags_write_put
    (hflags : ∀ i < 32, 24 ≤ i → (toBits word).getLsbD i = true →
      (toBits value).getLsbD i = true) (read : UInt32) :
    ((interrupts.write word).write (part.put value (read &&& 0x00ffffff))).flags =
      (interrupts.write (part.put value word)).flags := by
  refine eq_of_getLsbD_eq fun i hi => ?_
  rw [getLsbD_flags_write _ _ hi, getLsbD_flags_write _ _ hi, getLsbD_flags_write _ _ hi]
  by_cases hseven : i < 7
  · have hless := hflags (24 + i) (by omega) (by omega)
    rw [WordPart.getLsbD_put (by omega), WordPart.getLsbD_put (by omega), getLsbD_withoutFlags,
      decide_eq_true hseven, decide_eq_false (show ¬24 + i < 24 by omega)]
    simp only [Bool.and_true, Bool.and_false]
    split
    · -- What the word acknowledges, the value acknowledges too.
      cases hword : (toBits word).getLsbD (24 + i) with
      | false => rw [Bool.not_false, Bool.and_true]
      | true => rw [hless hword, Bool.not_true, Bool.and_false, Bool.and_false]
    · rw [Bool.not_false, Bool.and_true]
  · rw [decide_eq_false hseven, Bool.and_false, Bool.and_false, Bool.and_false, Bool.not_false,
      Bool.and_true, Bool.and_true]

/-- Writing a part after a word has been written, with zeros for the flags
outside of it, is the same as writing the word with the part in it, if the word
acknowledges no flag which the value does not. -/
theorem write_put
    (hflags : ∀ i < 32, 24 ≤ i → (toBits word).getLsbD i = true →
      (toBits value).getLsbD i = true) :
    (interrupts.write word).write
        (part.put value ((interrupts.write word).read &&& 0x00ffffff)) =
      interrupts.write (part.put value word) := by
  have hkept {i : Nat} (hi : i ≤ 5 ∨ (15 ≤ i ∧ i ≤ 23)) :
      (toBits (part.put value ((interrupts.write word).read &&& 0x00ffffff))).getLsbD i =
        (toBits (part.put value word)).getLsbD i := by
    rw [WordPart.getLsbD_put (by omega), WordPart.getLsbD_put (by omega), getLsbD_withoutFlags,
      getLsbD_read_write hi, decide_eq_true (by omega), Bool.and_true]
  have hbit {n : Nat} (hn : 15 ≤ n ∧ n ≤ 23) :
      bit (part.put value ((interrupts.write word).read &&& 0x00ffffff)) n =
        bit (part.put value word) n := by
    rw [bit_eq_getLsbD (by omega), bit_eq_getLsbD (by omega), hkept (.inr hn)]
  have hspare := bits_congr (by decide) (by decide)
    fun i (_ : 0 ≤ i) (hi : i ≤ 5) => hkept (.inl hi)
  have henabled := bits_congr (by decide) (by decide)
    fun i (hlow : 16 ≤ i) (hi : i ≤ 22) => hkept (.inr ⟨by omega, by omega⟩)
  have hacknowledged := @flags_write_put interrupts word value part hflags
    (interrupts.write word).read
  have hfields (value : UInt32) : (interrupts.write word).write value =
      ⟨(bits value 0 5).toUInt8, bit value 15, (bits value 16 22).toUInt8, bit value 23,
        ((interrupts.write word).write value).flags⟩ := rfl
  rw [hfields, hspare, henabled, hbit (by decide), hbit (by decide), hacknowledged]
  rfl

end Interrupts

namespace Dma

variable {dma after : Dma} {register : DmaRegister} {port : Port} {word value : UInt32}
  {parts : List WordPart}

/-- Only the last channel that is put in place of another counts. -/
theorem setChannel_setChannel (dma : Dma) (port : Port) (channel other : Channel) :
    (dma.setChannel port channel).setChannel port other = dma.setChannel port other := by
  rw [setChannel, setChannel, setChannel]
  simp only [Vector.set_set]

/-- A control value which is accepted sets the fields of the channel. -/
theorem write_channelControl (h : dma.write (.channelControl port) word = .ok after) :
    ∃ written, Channel.setControl? port (dma.channel port) word = some written ∧
      after = dma.setChannel port written := by
  rw [write] at h
  split at h
  · next written hwritten =>
    cases h
    exact ⟨written, hwritten, rfl⟩
  · cases h

/-- What a narrow store to a register puts its bytes into. -/
def readBack (dma : Dma) (register : DmaRegister) : UInt32 :=
  if register = .interrupt then dma.read register &&& 0x00ffffff else dma.read register

/-- Only flags are left out. -/
theorem readBack_of_ne (h : register ≠ .interrupt) : dma.readBack register = dma.read register :=
  if_neg h

/-- A controller goes on from a register in which a word has been put together:
a part that is written next is written into that word. -/
def Resumes (dma after : Dma) (register : DmaRegister) (value word : UInt32) : Prop :=
  ∀ part next, dma.write register (WordPart.put part value word) = .ok next →
    after.write register (part.put value (after.readBack register)) = .ok next

/-- After a word has been written to a register, parts are written into that
word. -/
theorem resumes_write (h : dma.write register word = .ok after)
    (hflags : register = .interrupt → ∀ i < 32, 24 ≤ i → (toBits word).getLsbD i = true →
      (toBits value).getLsbD i = true) : dma.Resumes after register value word := by
  intro part next hnext
  cases register with
  | base port =>
    cases h
    cases hnext
    have hread : (dma.setChannel port ((dma.channel port).setBase word)).readBack (.base port) =
        bits word 0 23 := by
      rw [readBack_of_ne (by rintro ⟨⟩), read, channel_setChannel_self]
      rfl
    have hbase : bits (part.put value (bits word 0 23)) 0 23 = bits (part.put value word) 0 23 := by
      refine bits_congr (by decide) (by decide) fun i _ hi => ?_
      rw [WordPart.getLsbD_put (by omega), WordPart.getLsbD_put (by omega),
        getLsbD_bits _ (by decide) (by decide), Nat.zero_add, decide_eq_true (by omega),
        Bool.and_true]
    rw [hread, write, setChannel_setChannel, channel_setChannel_self, Channel.setBase, hbase]
    rfl
  | blockControl port =>
    cases h
    cases hnext
    have hread : (dma.setChannel port ((dma.channel port).setBlockControl word)).readBack
        (.blockControl port) = word := by
      rw [readBack_of_ne (by rintro ⟨⟩), read, channel_setChannel_self,
        Channel.blockControl_setBlockControl]
    rw [hread, write, setChannel_setChannel, channel_setChannel_self]
    rfl
  | channelControl port =>
    obtain ⟨written, hwritten, rfl⟩ := write_channelControl h
    obtain ⟨put, hput, rfl⟩ := write_channelControl hnext
    have hread : (dma.setChannel port written).readBack (.channelControl port) =
        written.control := by
      rw [readBack_of_ne (by rintro ⟨⟩), read, channel_setChannel_self]
    rw [hread, write, channel_setChannel_self, Channel.setControl?_put hwritten, hput]
    simp only [setChannel_setChannel]
  | control =>
    cases h
    exact hnext
  | interrupt =>
    cases h
    cases hnext
    exact congrArg (fun interrupts => Except.ok { dma with interrupts })
      (Interrupts.write_put (hflags rfl))

/-- Whether a word can be written to a register without starting a transfer. -/
def Quiet (dma : Dma) (register : DmaRegister) (word : UInt32) : Prop :=
  match register with
  | .base port | .blockControl port => (dma.channel port).isActive = false
  | .channelControl port =>
    bit word 24 = false ∧ (Channel.syncNumber word ≠ 3 ∨ port = .otc)
  | .control | .interrupt => True

/-- Such a write is accepted and leaves no channel ready. -/
theorem Quiet.write (h : dma.Quiet register word) :
    ∃ after, dma.write register word = .ok after ∧ after.ready? register = none := by
  cases register with
  | base port | blockControl port =>
    refine ⟨_, rfl, ?_⟩
    rw [ready?_eq _ rfl, channel_setChannel_self]
    exact if_neg (Bool.eq_false_iff.mp h)
  | channelControl port =>
    obtain ⟨hoff, hsync⟩ := h
    obtain ⟨written, hwritten, henable⟩ := Channel.exists_setControl? (dma.channel port) hsync
    refine ⟨dma.setChannel port written, ?_, ?_⟩
    · rw [Dma.write]
      simp only [hwritten]
    · rw [ready?_eq _ rfl, channel_setChannel_self, Channel.isActive, henable, hoff, Bool.false_and]
      rfl
  | control | interrupt => exact ⟨_, rfl, rfl⟩

/-- Whether a value can be written to a register by parts in the given order:
the channel of a base or a size is not active, and a control register which may
start a transfer gets its top byte last. -/
def AdmitsParts (dma : Dma) (register : DmaRegister) (value : UInt32) (parts : List WordPart) :
    Prop :=
  match register with
  | .base port | .blockControl port => (dma.channel port).isActive = false
  | .channelControl port =>
    (dma.channel port).enable = false ∧ (Channel.syncNumber value ≠ 3 ∨ port = .otc) ∧
      ∃ last ∈ parts.getLast?, 3 ∈ last.bytes
  | .control | .interrupt => True

/-- The whole value is accepted as well. -/
theorem AdmitsParts.accepted (h : dma.AdmitsParts register value parts) :
    ∃ next, dma.write register value = .ok next := by
  cases register with
  | channelControl port =>
    obtain ⟨written, hwritten, -⟩ := Channel.exists_setControl? (dma.channel port) h.2.1
    exact ⟨dma.setChannel port written, by simp only [write, hwritten]⟩
  | _ => exact ⟨_, rfl⟩

/-- The flags in a word into which parts are put are flags of the value. -/
theorem putAll_flags (hregister : register = .interrupt) {i : Nat} (hi : i < 32) (hflag : 24 ≤ i)
    (hset : (toBits (WordPart.putAll parts value (dma.readBack register))).getLsbD i = true) :
    (toBits value).getLsbD i = true := by
  have hmask : (0x00ffffff : UInt32) = lowMask 24 := by decide
  have hread : (toBits (dma.readBack register)).getLsbD i = false := by
    rw [readBack, if_pos hregister, hmask, getLsbD_and, getLsbD_lowMask (by decide) (by decide),
      decide_eq_false (by omega), Bool.and_false]
  rw [WordPart.getLsbD_putAll hi, hread] at hset
  split at hset
  · exact hset
  · cases hset

/-- The parts before the last one are written without starting a transfer. -/
theorem AdmitsParts.quiet {last : WordPart}
    (h : dma.AdmitsParts register value (parts ++ [last]))
    (hpartition : WordPart.Partition (parts ++ [last])) {before : List WordPart}
    (hbefore : before <+: parts) :
    dma.Quiet register (WordPart.putAll before value (dma.readBack register)) := by
  cases register with
  | base port | blockControl port => exact h
  | control | interrupt => exact trivial
  | channelControl port =>
    obtain ⟨hoff, hsync, top, htop, hcovers⟩ := h
    rw [List.getLast?_concat, Option.mem_some_iff] at htop
    subst htop
    have hfree : 3 ∉ before.flatMap WordPart.bytes := by
      intro hmem
      obtain ⟨part, hpart, hbyte⟩ := List.mem_flatMap.mp hmem
      exact hpartition.not_mem_of_last hcovers
        (List.mem_flatMap.mpr ⟨part, hbefore.subset hpart, hbyte⟩)
    have hread : dma.readBack (.channelControl port) = (dma.channel port).control :=
      readBack_of_ne (by rintro ⟨⟩)
    rw [hread]
    refine ⟨?_, hsync.imp_left fun hvalue => ?_⟩
    · rw [bit_eq_getLsbD (by decide), WordPart.getLsbD_putAll (by decide), if_neg hfree,
        ← bit_eq_getLsbD (by decide), Channel.bit_control_enable, hoff]
    · -- Both bits of the sync mode are in the byte above the lowest.
      have hbyte {i : Nat} (hlow : 9 ≤ i) (hhigh : i ≤ 10) : i / 8 = 1 := by omega
      by_cases hsecond : 1 ∈ before.flatMap WordPart.bytes
      · have hnew : Channel.syncNumber
            (WordPart.putAll before value (dma.channel port).control) =
              Channel.syncNumber value := by
          refine bits_congr (by decide) (by decide) fun i hlow hhigh => ?_
          rw [WordPart.getLsbD_putAll (by omega), hbyte hlow hhigh, if_pos hsecond]
        rw [hnew]
        exact hvalue
      · have hold : Channel.syncNumber
            (WordPart.putAll before value (dma.channel port).control) =
              Channel.syncNumber (dma.channel port).control := by
          refine bits_congr (by decide) (by decide) fun i hlow hhigh => ?_
          rw [WordPart.getLsbD_putAll (by omega), hbyte hlow hhigh, if_neg hsecond]
        rw [hold, Channel.syncNumber_control]
        cases (dma.channel port).sync <;> decide

end Dma

end Playstation
