import Mathlib.Data.List.Induction
import Playstation.Proofs.Dma.Interrupt
import Playstation.Proofs.Dma.Store
import Playstation.Proofs.Dma.Transfer

/-!
# Which flags are set

A flag reports that a transfer of its channel was completed while the channel
was enabled, and stays until a store to the top byte of the interrupt register
writes a one to it. No other operation makes a difference to it: not a transfer
that fails, not one of a channel which is not enabled, and not a store beside
the flags. The top bit of the register shows the line, which the flags of
enabled channels raise.
-/

namespace Playstation

open MachineWord

/-- Every channel number is that of a port. -/
theorem Port.exists_index {i : Nat} (h : i < 7) : ∃ port : Port, port.index.val = i := by
  match i, h with
  | 0, _ => exact ⟨.mdecIn, rfl⟩
  | 1, _ => exact ⟨.mdecOut, rfl⟩
  | 2, _ => exact ⟨.gpu, rfl⟩
  | 3, _ => exact ⟨.cdRom, rfl⟩
  | 4, _ => exact ⟨.spu, rfl⟩
  | 5, _ => exact ⟨.pio, rfl⟩
  | 6, _ => exact ⟨.otc, rfl⟩

/-- The last element of a list has a property, or is one more of those after an
element which has it. -/
theorem exists_split_concat {α : Type} {init : List α} {last : α} (P Q : α → Prop) :
    (∃ done x later, init ++ [last] = done ++ x :: later ∧ P x ∧ ∀ y ∈ later, Q y) ↔
      P last ∨ (∃ done x later, init = done ++ x :: later ∧ P x ∧ ∀ y ∈ later, Q y) ∧ Q last := by
  constructor
  · rintro ⟨done, x, later, hsplit, hx, hlater⟩
    induction later using List.reverseRecOn with
    | nil =>
      obtain ⟨-, heq⟩ := List.append_inj' hsplit rfl
      cases heq
      exact .inl hx
    | append_singleton rest final _ =>
      rw [← List.cons_append, ← List.append_assoc] at hsplit
      obtain ⟨hinit, heq⟩ := List.append_inj' hsplit rfl
      cases heq
      have hlast := hlater last (List.mem_append_right rest (List.mem_singleton_self last))
      refine .inr ⟨⟨done, x, rest, hinit, hx, ?_⟩, hlast⟩
      intro y hy
      exact hlater y (List.mem_append_left _ hy)
  · rintro (hlast | ⟨⟨done, x, later, rfl, hx, hlater⟩, hlast⟩)
    · refine ⟨init, last, [], rfl, hlast, ?_⟩
      intro y hy
      cases hy
    · refine ⟨done, x, later ++ [last], ?_, hx, ?_⟩
      · rw [List.append_assoc, List.cons_append]
      · intro y hy
        rcases List.mem_append.mp hy with hmem | hmem
        · exact hlater y hmem
        · rw [List.mem_singleton.mp hmem]
          exact hlast

namespace Interrupts

variable (interrupts : Interrupts) (port : Port)

/-- The register shows the flag of a channel. -/
theorem bit_read_flag :
    bit interrupts.read (24 + port.index) = bit interrupts.flags port.index := by
  have hport := port.index.isLt
  rw [bit_eq _ _ (show 24 + port.index.val < 32 by omega),
    bit_eq _ _ (show port.index.val < 8 by omega)]
  exact interrupts.getLsbD_read_flag hport

/-- The register shows whether a channel is enabled. -/
theorem bit_read_enabled :
    bit interrupts.read (16 + port.index) = bit interrupts.enabled port.index := by
  have hport := port.index.isLt
  rw [bit_eq _ _ (show 16 + port.index.val < 32 by omega),
    bit_eq _ _ (show port.index.val < 8 by omega), getLsbD_read, if_neg (by omega),
    if_neg (by omega), if_neg (by omega), if_pos (by omega), Nat.add_sub_cancel_left]

/-- A write leaves a flag set if it writes a zero to it. -/
theorem bit_write_flag (value : UInt32) :
    bit (interrupts.write value).flags port.index =
      (bit interrupts.flags port.index && !bit value (24 + port.index)) := by
  have hport := port.index.isLt
  rw [bit_eq _ _ (show port.index.val < 8 by omega), bit_eq _ _ (show port.index.val < 8 by omega),
    bit_eq _ _ (show 24 + port.index.val < 32 by omega)]
  exact interrupts.getLsbD_write_flag value hport

/-- The end of a transfer sets the flag of its channel, if that is enabled, and
leaves the others. -/
theorem bit_complete_flag (other : Port) :
    bit (interrupts.complete port).flags other.index =
      (bit interrupts.flags other.index ||
        (decide (other = port) && bit interrupts.enabled other.index)) := by
  have hport := port.index.isLt
  have hother := other.index.isLt
  rw [complete]
  cases henabled : bit interrupts.enabled port.index with
  | true =>
    have hset : bit (setBit interrupts.flags port.index true) other.index =
        if other.index.val = port.index.val then true else bit interrupts.flags other.index := by
      rw [bit_eq _ _ (show other.index.val < 8 by omega),
        bit_eq _ _ (show other.index.val < 8 by omega)]
      exact getLsbD_setBit _ (show port.index.val < 8 by omega) true other.index
    refine hset.trans ?_
    by_cases heq : other = port
    · subst heq
      rw [if_pos rfl, henabled, decide_eq_true rfl, Bool.and_true, Bool.or_true]
    · have hindex : other.index.val ≠ port.index.val :=
        fun h => heq (Port.index_injective (Fin.ext h))
      rw [if_neg hindex, decide_eq_false heq, Bool.false_and, Bool.or_false]
  | false =>
    by_cases heq : other = port
    · subst heq
      rw [henabled, Bool.and_false, Bool.or_false]
      rfl
    · rw [decide_eq_false heq, Bool.false_and, Bool.or_false]
      rfl

/-- Only bits which have a meaning are kept in the fields that are wider. -/
structure Valid : Prop where
  /-- Six bits without meaning are kept. -/
  spare : ∀ i, 6 ≤ i → (toBits interrupts.spare).getLsbD i = false
  /-- There are seven channels to enable. -/
  enabled : ∀ i, 7 ≤ i → (toBits interrupts.enabled).getLsbD i = false

variable {interrupts}

/-- Nothing is kept at power on. -/
theorem valid_powerOn : powerOn.Valid where
  spare _ _ := BitVec.getLsbD_zero
  enabled _ _ := BitVec.getLsbD_zero

/-- A write keeps the bits of its fields. -/
theorem valid_write (value : UInt32) : (interrupts.write value).Valid := by
  have hfield {low high : Nat} (hle : low ≤ high) (hhigh : high < 32) (hlength : high - low < 8)
      {i : Nat} (hi : high - low + 1 ≤ i) :
      (toBits (bits value low high).toUInt8).getLsbD i = false := by
    rw [getLsbD_toUInt8_bits _ hle hhigh hlength, decide_eq_false (by omega), Bool.and_false]
  constructor
  · intro i hi
    exact hfield (by decide) (by decide) (by decide) hi
  · intro i hi
    exact hfield (by decide) (by decide) (by decide) hi

/-- The end of a transfer changes nothing but flags. -/
theorem Valid.complete (h : interrupts.Valid) : (interrupts.complete port).Valid := by
  rw [Interrupts.complete]
  split
  · exact ⟨h.spare, h.enabled⟩
  · exact h

/-- The line is raised by force, or by a flag whose channel is enabled if flags
raise it at all. -/
theorem Valid.line_iff (h : interrupts.Valid) :
    interrupts.line = true ↔ interrupts.force = true ∨ interrupts.master = true ∧
      ∃ port : Port, bit interrupts.flags port.index = true ∧
        bit interrupts.enabled port.index = true := by
  have hraised : (interrupts.flags &&& interrupts.enabled != 0) = true ↔
      ∃ port : Port, bit interrupts.flags port.index = true ∧
        bit interrupts.enabled port.index = true := by
    have hand (i : Nat) := getLsbD_and interrupts.flags interrupts.enabled i
    have hzero (i : Nat) : (toBits (0 : UInt8)).getLsbD i = false := BitVec.getLsbD_zero
    rw [bne_iff_ne]
    constructor
    · intro hne
      by_contra hnone
      refine hne (toBits_injective _ _ (BitVec.eq_of_getLsbD_eq fun i hi => ?_))
      rw [hand, hzero]
      by_cases hchannel : i < 7
      · obtain ⟨port, rfl⟩ := Port.exists_index hchannel
        have hport := not_exists.mp hnone port
        rw [bit_eq _ _ hi, bit_eq _ _ hi, ← Bool.and_eq_true] at hport
        exact Bool.eq_false_of_not_eq_true hport
      · rw [h.enabled i (by omega), Bool.and_false]
    · rintro ⟨port, hflag, henabled⟩ hnone
      have hport : port.index.val < 8 := Nat.lt_succ_of_lt port.index.isLt
      rw [bit_eq _ _ hport] at hflag henabled
      have hset := hand port.index
      rw [hnone, hzero, hflag, henabled] at hset
      cases hset
  rw [line, Bool.or_eq_true, Bool.and_eq_true, hraised]

/-- The top bit of the register shows the line. -/
theorem Valid.bit_read_line (h : interrupts.Valid) :
    bit interrupts.read 31 = true ↔ bit interrupts.read 15 = true ∨ bit interrupts.read 23 = true ∧
      ∃ port : Port, bit interrupts.read (24 + port.index) = true ∧
        bit interrupts.read (16 + port.index) = true := by
  have hbit {i : Nat} (hi : i < 32) :
      bit interrupts.read i = (toBits interrupts.read).getLsbD i := bit_eq _ i hi
  have hline : bit interrupts.read 31 = interrupts.line := by
    rw [hbit (by omega), getLsbD_read, if_pos rfl]
  have hforce : bit interrupts.read 15 = interrupts.force := by
    rw [hbit (by omega), getLsbD_read, if_neg (by omega), if_neg (by omega), if_neg (by omega),
      if_neg (by omega), if_pos rfl]
  have hmaster : bit interrupts.read 23 = interrupts.master := by
    rw [hbit (by omega), getLsbD_read, if_neg (by omega), if_neg (by omega), if_pos rfl]
  simp only [bit_read_flag, bit_read_enabled, hline, hforce, hmaster]
  exact h.line_iff

/-- The bits of the register without a field read as zero. -/
theorem Valid.bits_read_unused (h : interrupts.Valid) : bits interrupts.read 6 14 = 0 := by
  refine eq_of_getLsbD_eq fun i _ => ?_
  rw [getLsbD_bits _ (by decide) (by decide), show (toBits (0 : UInt32)).getLsbD i = false from
    BitVec.getLsbD_zero]
  by_cases hinside : i < 14 - 6 + 1
  · rw [getLsbD_read, if_neg (by omega), if_neg (by omega), if_neg (by omega), if_neg (by omega),
      if_neg (by omega), h.spare _ (by omega), Bool.false_and]
  · rw [decide_eq_false hinside, Bool.and_false]

end Interrupts

/-- The addresses from which the controller has its interrupt register. -/
theorem interrupt_of_find? {address : UInt32}
    (hregion : Region.find? (physical address) = some .dma)
    (hregister : DmaRegister.ofOffset? (Region.dma.offsetOf (physical address) &&& 0xfffffffc) =
      some .interrupt) : physical address &&& 0xfffffffc = 0x1f8010f4 := by
  have hbase : physical address =
      0x1f801080 + Region.dma.offsetOf (physical address) := by
    change physical address = 0x1f801080 + (physical address - 0x1f801080)
    rw [UInt32.add_comm, UInt32.sub_add_cancel]
  have hinside : (Region.dma.offsetOf (physical address)).toNat < 128 := by
    have hcontains := Region.contains_of_find? hregion
    rw [AddressRange.contains, Bool.and_eq_true, decide_eq_true_eq, decide_eq_true_eq] at hcontains
    exact UInt32.lt_iff_toNat_lt.mp hcontains.2
  have hoffsets : ∀ offset : Fin 128,
      DmaRegister.ofOffset? (UInt32.ofNat offset &&& 0xfffffffc) = some .interrupt →
        (0x1f801080 + UInt32.ofNat offset) &&& 0xfffffffc = 0x1f8010f4 := by
    decide +kernel
  have hoffset := hoffsets ⟨_, hinside⟩
  rw [UInt32.ofNat_toNat] at hoffset
  rw [hbase]
  exact hoffset hregister

/-- A store writes a one to the flag of a channel if it covers the top byte and
has a one there. -/
theorem bit_merge_flag {w : Width} {address : UInt32} (old value : UInt32) (port : Port)
    (haligns : w.aligns address = true) (h : physical address &&& 0xfffffffc = 0x1f8010f4) :
    bit (merge w (old &&& 0x00ffffff) value (Region.dma.offsetOf (physical address)))
        (24 + port.index) =
      (decide (32 ≤ (byteShift address).toNat + w.bitCount) &&
        bit value (24 + port.index - (byteShift address).toNat)) := by
  have hport := port.index.isLt
  have hlow := toNat_lowBits_le address
  have hshift := toNat_byteShift address
  obtain ⟨-, -, hoffset⟩ := find?_interrupt h
  rw [bit_eq _ _ (show 24 + port.index.val < 32 by omega),
    bit_eq _ _ (show 24 + port.index.val - (byteShift address).toNat < 32 by omega)]
  by_cases hw : w = .word
  · subst hw
    have hwhole : (byteShift address).toNat = 0 := by
      rw [hshift, beq_iff_eq.mp haligns]
      rfl
    rw [hwhole, Nat.zero_add, decide_eq_true (show 32 ≤ Width.word.bitCount from Nat.le_refl 32),
      Bool.true_and]
    rfl
  · rw [getLsbD_merge hw _ _ _ (by omega), hoffset]
    by_cases hcovers : 32 ≤ (byteShift address).toNat + w.bitCount
    · rw [if_pos (by omega), decide_eq_true hcovers, Bool.true_and]
    · have hbeside : ¬24 + port.index.val < (byteShift address).toNat + w.bitCount := by
        cases w with
        | word => exact absurd rfl hw
        | byte | half =>
          simp only [Width.bitCount] at hcovers ⊢
          omega
      have hmask : (0x00ffffff : UInt32) = lowMask 24 := by decide
      rw [if_neg (fun hcovered => hbeside hcovered.2), decide_eq_false hcovers, Bool.false_and,
        hmask, getLsbD_and, getLsbD_lowMask (by decide) (by decide),
        decide_eq_false (by omega), Bool.and_false]

namespace Bus

namespace Operation

/-- Whether an operation is a store to the interrupt register which covers its
top byte and writes a one to the flag of a channel there. -/
def acknowledges (operation : Operation) (port : Port) : Bool :=
  match operation with
  | .store w address value =>
    w.aligns address && physical address &&& 0xfffffffc == 0x1f8010f4 &&
      (decide (32 ≤ (byteShift address).toNat + w.bitCount) &&
        bit value (24 + port.index - (byteShift address).toNat))
  | .load _ _ | .peek _ _ => false

/-- Only stores to the interrupt register acknowledge something. -/
theorem register?_of_acknowledges {operation : Operation} {port : Port}
    (h : operation.acknowledges port = true) : operation.register? = some .interrupt := by
  cases operation with
  | load w address | peek w address => cases h
  | store w address value =>
    rw [acknowledges, Bool.and_eq_true, Bool.and_eq_true, beq_iff_eq] at h
    obtain ⟨⟨haligns, haddress⟩, -⟩ := h
    obtain ⟨hregion, hoffset, -⟩ := find?_interrupt haddress
    rw [register?, if_pos ⟨haligns, hregion⟩, hoffset]
    rfl

/-- An operation which stores elsewhere acknowledges no flag. -/
theorem not_acknowledges {operation : Operation} {port : Port}
    (h : operation.register? ≠ some .interrupt) : operation.acknowledges port = false :=
  Bool.eq_false_iff.mpr fun hone => h (register?_of_acknowledges hone)

end Operation

namespace Access

variable {access : Access} {port : Port}

/-- Whether an operation is a store which starts the transfer of a channel, and
is not refused: the transfer is run to its end. -/
def Completes (access : Access) (port : Port) : Prop :=
  access.fault? = none ∧ ∃ w address value dma, access.operation = .store w address value ∧
    access.bus.Starts w address value port dma

/-- Whether an operation completes a transfer of a channel which is enabled. -/
def Reports (access : Access) (port : Port) : Prop :=
  access.Completes port ∧ bit (access.bus.dma.read .interrupt) (16 + port.index) = true

/-- The register which a completing store writes is one of the channel. -/
theorem Completes.register? (h : access.Completes port) :
    ∃ register, access.operation.register? = some register ∧ register.port? = some port := by
  obtain ⟨-, w, address, value, dma, hoperation, hstart⟩ := h
  obtain ⟨register, word, hregister, hport, -⟩ := hstart.write
  refine ⟨register, ?_, hport⟩
  rw [hoperation, Operation.register?, if_pos ⟨hstart.aligns, hstart.region⟩, hregister]

/-- An operation completes no more than one transfer. -/
theorem Completes.port_unique {other : Port} (h : access.Completes port)
    (hother : access.Completes other) : other = port := by
  obtain ⟨register, hregister, hport⟩ := h.register?
  obtain ⟨register', hregister', hport'⟩ := hother.register?
  rw [hregister, Option.some.injEq] at hregister'
  rw [← hregister', hport, Option.some.injEq] at hport'
  exact hport'.symm

/-- The interrupt register notices the end of the transfer. -/
theorem Completes.interrupts_after (h : access.Completes port) :
    access.after.dma.interrupts = access.bus.dma.interrupts.complete port := by
  rcases access with ⟨bus, operation⟩
  obtain ⟨hfault, w, address, value, dma, hoperation, hstart⟩ := h
  obtain ⟨register, word, -, hport, -, hwrite⟩ := hstart.write
  have hkept : dma.interrupts = bus.dma.interrupts := by
    refine Dma.interrupts_write hwrite fun heq => ?_
    rw [heq] at hport
    cases hport
  have hperform : bus.perform operation =
      ((({ bus with dma } : Bus).transfer port).1,
        (({ bus with dma } : Bus).transfer port).2.map .dma) := by
    rw [show operation = .store w address value from hoperation]
    exact hstart.store_eq
  rcases ({ bus with dma } : Bus).transfer_cases port with
    ⟨-, hdone⟩ | ⟨fault, hfailed, -, -⟩
  · have hafter : (bus.perform operation).1.dma = dma.complete port := by
      rw [hperform]
      exact hdone
    change (bus.perform operation).1.dma.interrupts = bus.dma.interrupts.complete port
    rw [hafter, ← hkept]
    rfl
  · have hrefused : (bus.perform operation).2 = some (.dma fault) := by
      rw [hperform, hfailed]
      rfl
    cases hfault.symm.trans hrefused

/-- An operation which completes no transfer and stores elsewhere leaves the
interrupt register. -/
theorem interrupts_after (hnone : ∀ port, ¬access.Completes port)
    (hother : access.operation.register? ≠ some .interrupt) :
    access.after.dma.interrupts = access.bus.dma.interrupts := by
  cases hregister : access.operation.register? with
  | none => rw [access.after_dma hregister]
  | some register =>
    rcases access with ⟨bus, operation⟩
    obtain ⟨w, address, value, rfl, haligns, hregion, hoffset⟩ :=
      Operation.stores_of_register hregister
    have hstore := @store_of_dma bus w value address haligns hregion
    change (bus.store w address value).1.dma.interrupts = bus.dma.interrupts
    obtain ⟨number, hrefused⟩ | ⟨word, dma, hword, hwrite, hwritten⟩ :=
      @storeDma_cases bus w (Region.dma.offsetOf (physical address)) value register hoffset
    · rw [hstore, hrefused]
    have hkept : dma.interrupts = bus.dma.interrupts := by
      refine Dma.interrupts_write hwrite fun heq => hother ?_
      rw [hregister, heq]
    rw [hwritten] at hstore
    cases hready : dma.ready? register with
    | none =>
      rw [hstore, hready]
      exact hkept
    | some port =>
      rw [hready] at hstore
      obtain ⟨hport, hactive⟩ := Option.filter_eq_some_iff.mp hready
      rcases ({ bus with dma } : Bus).transfer_cases port with
        ⟨hdone, -⟩ | ⟨fault, -, -, hfailed⟩
      · -- The transfer is completed, which has been ruled out.
        have hfault : (bus.store w address value).2 = none := by
          rw [hstore]
          exact congrArg (Option.map BusFault.dma) hdone
        exact absurd ⟨hfault, w, address, value, dma, rfl, haligns, hregion,
          ⟨register, word, hoffset, hport, hword, hwrite⟩, hactive⟩ (hnone port)
      · rw [hstore]
        exact (congrArg Dma.interrupts hfailed).trans hkept

/-- A completed transfer is reported for its own channel, if that is enabled. -/
theorem Completes.reports_iff {other : Port} (h : access.Completes other) :
    access.Reports port ↔
      port = other ∧ bit access.bus.dma.interrupts.enabled port.index = true := by
  have henabled : bit (access.bus.dma.read .interrupt) (16 + port.index) =
      bit access.bus.dma.interrupts.enabled port.index :=
    access.bus.dma.interrupts.bit_read_enabled port
  rw [Reports, henabled]
  constructor
  · rintro ⟨hport, hon⟩
    exact ⟨h.port_unique hport, hon⟩
  · rintro ⟨rfl, hon⟩
    exact ⟨h, hon⟩

/-- A store to the interrupt register keeps the flags which it does not
acknowledge. -/
theorem flag_after_acknowledging (h : access.operation.register? = some .interrupt) :
    bit access.after.dma.interrupts.flags port.index = true ↔
      bit access.bus.dma.interrupts.flags port.index = true ∧
        access.operation.acknowledges port = false := by
  rcases access with ⟨bus, operation⟩
  obtain ⟨w, address, value, rfl, haligns, hregion, hoffset⟩ := Operation.stores_of_register h
  have haddress := interrupt_of_find? hregion hoffset
  have hafter : (Access.after ⟨bus, .store w address value⟩).dma.interrupts =
      bus.dma.interrupts.write (merge w (bus.dma.read .interrupt &&& 0x00ffffff) value
        (Region.dma.offsetOf (physical address))) :=
    congrArg (fun result => result.1.dma.interrupts) (store_interrupt haligns haddress)
  have hone : Operation.acknowledges (.store w address value) port =
      (decide (32 ≤ (byteShift address).toNat + w.bitCount) &&
        bit value (24 + port.index - (byteShift address).toNat)) := by
    rw [Operation.acknowledges, haligns, haddress]
    rfl
  rw [hafter, Interrupts.bit_write_flag, bit_merge_flag _ _ _ haligns haddress, ← hone,
    Bool.and_eq_true, Bool.not_eq_true']

/-- After an operation a flag is set if the operation reports the end of a
transfer, or if it was set and is not acknowledged. -/
theorem flag_after (access : Access) (port : Port) :
    bit (access.after.dma.read .interrupt) (24 + port.index) = true ↔
      access.Reports port ∨ bit (access.bus.dma.read .interrupt) (24 + port.index) = true ∧
        access.operation.acknowledges port = false := by
  have hread (dma : Dma) : bit (dma.read .interrupt) (24 + port.index) =
      bit dma.interrupts.flags port.index := dma.interrupts.bit_read_flag port
  rw [hread, hread]
  by_cases hcompletes : ∃ other, access.Completes other
  · obtain ⟨other, hother⟩ := hcompletes
    have hkept : access.operation.acknowledges port = false := by
      obtain ⟨register, hregister, hport⟩ := hother.register?
      refine Operation.not_acknowledges fun heq => ?_
      rw [hregister, Option.some.injEq] at heq
      rw [heq] at hport
      cases hport
    rw [hother.interrupts_after, Interrupts.bit_complete_flag, hother.reports_iff, hkept,
      Bool.or_eq_true, Bool.and_eq_true, decide_eq_true_eq, or_comm]
    simp only [and_true]
  · have hnone : ∀ other, ¬access.Completes other := not_exists.mp hcompletes
    have hreports : ¬access.Reports port := fun h => hnone port h.1
    simp only [hreports, false_or]
    by_cases hregister : access.operation.register? = some .interrupt
    · exact flag_after_acknowledging hregister
    · rw [interrupts_after hnone hregister, Operation.not_acknowledges hregister]
      simp only [and_true]

/-- After an operation the interrupt register keeps no bits without meaning, if
it kept none before. -/
theorem valid_after {access : Access} (h : access.bus.dma.interrupts.Valid) :
    access.after.dma.interrupts.Valid := by
  by_cases hcompletes : ∃ port, access.Completes port
  · obtain ⟨port, hport⟩ := hcompletes
    rw [hport.interrupts_after]
    exact h.complete port
  · by_cases hregister : access.operation.register? = some .interrupt
    · rcases access with ⟨bus, operation⟩
      obtain ⟨w, address, value, rfl, haligns, hregion, hoffset⟩ :=
        Operation.stores_of_register hregister
      change (bus.store w address value).1.dma.interrupts.Valid
      rw [store_interrupt haligns (interrupt_of_find? hregion hoffset)]
      exact Interrupts.valid_write _
    · rw [interrupts_after (not_exists.mp hcompletes) hregister]
      exact h

end Access

variable {bus : Bus}

/-- From a bus with a clear flag, the flag is set after a sequence of operations
if one of them has reported the end of a transfer, and none after that one has
acknowledged it. -/
theorem flag_performAll {port : Port}
    (h : bit (bus.dma.read .interrupt) (24 + port.index) = false) (operations : List Operation) :
    bit ((bus.performAll operations).dma.read .interrupt) (24 + port.index) = true ↔
      ∃ done access later, bus.accesses operations = done ++ access :: later ∧
        access.Reports port ∧ ∀ other ∈ later, other.operation.acknowledges port = false := by
  -- From the back: the last operation reports, acknowledges, or makes no difference.
  induction operations using List.reverseRecOn with
  | nil =>
    constructor
    · intro hset
      exact absurd hset (Bool.eq_false_iff.mp h)
    · rintro ⟨done, access, later, hsplit, -⟩
      cases List.append_ne_nil_of_right_ne_nil done (List.cons_ne_nil access later) hsplit.symm
  | append_singleton operations operation ih =>
    obtain ⟨last, hlast⟩ : ∃ last : Access, last = ⟨bus.performAll operations, operation⟩ :=
      ⟨_, rfl⟩
    have hbus : last.bus = bus.performAll operations := by rw [hlast]
    rw [performAll_concat, accesses_concat, ← hlast, Access.flag_after, hbus, ih]
    exact (exists_split_concat (fun access : Access => access.Reports port)
      fun access => access.operation.acknowledges port = false).symm

/-- Sequences of operations keep no bits without meaning. -/
theorem valid_performAll (h : bus.dma.interrupts.Valid) (operations : List Operation) :
    (bus.performAll operations).dma.interrupts.Valid := by
  induction operations generalizing bus with
  | nil => exact h
  | cons operation operations ih => exact ih (@Access.valid_after ⟨bus, operation⟩ h)

/-- After any sequence of operations from power on, the flag of a channel is set
if and only if a store has completed a transfer of the channel while that was
enabled, and no later store to the top byte of the interrupt register has
written a one to the flag. The top bit of the register shows whether the line is
forced, or raised by the flag of an enabled channel, and the bits without a
field read as zero. -/
theorem flag_iff_reported (bios : Bios) (operations : List Operation) :
    let register := ((powerOn bios).performAll operations).dma.read .interrupt
    (∀ port : Port, bit register (24 + port.index) = true ↔
      ∃ done access later, (powerOn bios).accesses operations = done ++ access :: later ∧
        access.Reports port ∧ ∀ other ∈ later, other.operation.acknowledges port = false) ∧
    (bit register 31 = true ↔ bit register 15 = true ∨ bit register 23 = true ∧
      ∃ port : Port, bit register (24 + port.index) = true ∧
        bit register (16 + port.index) = true) ∧
    bits register 6 14 = 0 := by
  intro register
  have hvalid : ((powerOn bios).performAll operations).dma.interrupts.Valid :=
    valid_performAll Interrupts.valid_powerOn operations
  refine ⟨?_, ?_, ?_⟩
  · intro port
    have hclear : bit ((powerOn bios).dma.read .interrupt) (24 + port.index) = false := by
      have hflags : bit Interrupts.powerOn.flags port.index = false := by
        cases port <;> decide
      exact (Interrupts.powerOn.bit_read_flag port).trans hflags
    exact flag_performAll hclear operations
  · exact hvalid.bit_read_line
  · exact hvalid.bits_read_unused

end Bus

end Playstation
