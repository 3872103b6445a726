import Playstation.Proofs.Dma.Operation
import Playstation.Proofs.Dma.RegisterField

/-!
# Reading back the registers of the controller

Every register of the DMA controller is at one offset, where it is stored to and loaded
from. The main statement tells of every offset what a store there does to the loads from
all of them: the register which is written shows the fields it keeps, the other ones show
what they have shown before, and writing back what has been loaded changes nothing. It
also says where there is no register, and which stores to one are refused.
-/

namespace Playstation

open MachineWord

/-- The number of a channel is that of its port and of no other one. -/
theorem Port.ofNat?_eq_some_iff {n : Nat} {port : Port} :
    ofNat? n = some port ↔ n = port.index := by
  constructor
  · intro h
    unfold ofNat? at h
    split at h <;> cases h <;> rfl
  · rintro rfl
    cases port <;> rfl

/-- The channel of a port is found by its number. -/
theorem Port.ofNat?_index (port : Port) : ofNat? port.index = some port :=
  ofNat?_eq_some_iff.mpr rfl

/-- There are seven channels. -/
theorem Port.ofNat?_eq_none_iff {n : Nat} : ofNat? n = none ↔ 7 ≤ n := by
  constructor
  · intro h
    by_contra hlt
    obtain ⟨port, rfl⟩ := exists_index (Nat.lt_of_not_le hlt)
    rw [ofNat?_index] at h
    cases h
  · intro h
    cases hport : ofNat? n with
    | none => rfl
    | some port =>
      have hindex := ofNat?_eq_some_iff.mp hport
      have hlt := port.index.isLt
      omega

namespace DmaRegister

/-- Where a register is in the window of the controller, whose 128 bytes are repeated. -/
def offset : DmaRegister → Nat
  | base port => 16 * port.index
  | blockControl port => 16 * port.index + 4
  | channelControl port => 16 * port.index + 8
  | control => 0x70
  | interrupt => 0x74

/-- Each register is at one place, and there is one at most at each. -/
theorem ofOffset?_eq_some_iff {place : UInt32} {register : DmaRegister} :
    ofOffset? place = some register ↔ place.toNat % 128 = register.offset := by
  have hmajor : (bits place 4 6).toNat = place.toNat / 16 % 8 :=
    toNat_bits place (by decide) (by decide)
  have hminor : (bits place 0 3).toNat = place.toNat / 1 % 16 :=
    toNat_bits place (by decide) (by decide)
  rw [Nat.div_one] at hminor
  unfold ofOffset?
  constructor
  · intro h
    split at h
    case h_1 port hport hnumber | h_2 port hport hnumber | h_3 port hport hnumber =>
      cases h
      have hindex := Port.ofNat?_eq_some_iff.mp hport
      simp only [offset]
      omega
    case h_4 hport hnumber | h_5 hport hnumber =>
      cases h
      have hshared := Port.ofNat?_eq_none_iff.mp hport
      simp only [offset]
      omega
    case h_6 => cases h
  · intro h
    -- The two fields of an offset are its quotient and its remainder by sixteen.
    have hsplit (major minor : Nat) (hlt : minor < 16)
        (hplace : place.toNat % 128 = 16 * major + minor) :
        (bits place 4 6).toNat = major ∧ (bits place 0 3).toNat = minor := by
      omega
    cases register with
    | base port =>
      obtain ⟨hport, hnumber⟩ := hsplit port.index 0 (by decide) h
      simp only [hport, hnumber, Port.ofNat?_index]
    | blockControl port =>
      obtain ⟨hport, hnumber⟩ := hsplit port.index 4 (by decide) h
      simp only [hport, hnumber, Port.ofNat?_index]
    | channelControl port =>
      obtain ⟨hport, hnumber⟩ := hsplit port.index 8 (by decide) h
      simp only [hport, hnumber, Port.ofNat?_index]
    | control =>
      obtain ⟨hport, hnumber⟩ := hsplit 7 0 (by decide) h
      simp only [hport, hnumber, Port.ofNat?]
    | interrupt =>
      obtain ⟨hport, hnumber⟩ := hsplit 7 4 (by decide) h
      simp only [hport, hnumber, Port.ofNat?]

end DmaRegister

/-- What a register shows after a value has been written to it, from what it has shown before. -/
def DmaRegister.shown (register : DmaRegister) (before value : UInt32) : UInt32 :=
  match register with
  | base _ => value &&& 0x00ffffff
  | blockControl _ | control => value
  | channelControl .otc => (value &&& 0x51000000) ||| 2
  | channelControl _ => value &&& 0x71770703
  | interrupt => Interrupts.shown before value

namespace Dma

variable {dma after : Dma} {register : DmaRegister} {port : Port} {offset value : UInt32}
  {P : Channel → Prop}

/-- A write keeps an invariant of the channels. -/
theorem invariant_write (h : Channel.IsInvariant P) (hall : ∀ port, P (dma.channel port))
    (hwrite : dma.write register value = .ok after) (port : Port) : P (after.channel port) := by
  by_cases hport : register.port? = some port
  · cases register with
    | base =>
      cases hport
      cases hwrite
      rw [channel_setChannel_self]
      exact h.setBase (hall port) value
    | blockControl =>
      cases hport
      cases hwrite
      rw [channel_setChannel_self]
      exact h.setBlockControl (hall port) value
    | channelControl =>
      cases hport
      obtain ⟨written, hwritten, rfl⟩ := write_channelControl hwrite
      rw [channel_setChannel_self]
      exact h.setControl? (hall port) hwritten
    | control | interrupt => cases hport
  · rw [channel_write hwrite hport]
    exact hall port

/-- So does every operation. -/
theorem invariant_perform (h : Channel.IsInvariant P) (hall : ∀ port, P (dma.channel port))
    (operation : Operation) (port : Port) : P ((dma.perform operation).channel port) := by
  cases operation with
  | complete other =>
    change P ((dma.setChannel other (dma.channel other).finish).channel port)
    rw [channel_setChannel]
    split
    · exact h.finish (hall other)
    · exact hall port
  | store offset value =>
    rcases dma.perform_store_cases offset value with ⟨hkept, -⟩ | ⟨register, -, hwrite⟩
    · rw [hkept]
      exact hall port
    · exact invariant_write h hall hwrite port

/-- An invariant holds of every channel after every sequence of operations. -/
theorem invariant_performAll (h : Channel.IsInvariant P) (operations : List Operation)
    (port : Port) : P ((powerOn.performAll operations).channel port) := by
  induction operations using List.reverseRecOn generalizing port with
  | nil =>
    have hstart : powerOn.channel port = .powerOn := by
      cases port <;> rfl
    rw [performAll, List.foldl_nil, hstart]
    exact h.powerOn
  | append_singleton operations operation ih =>
    rw [performAll_append]
    exact invariant_perform h ih operation port

/-- Putting a channel where it is changes nothing. -/
theorem setChannel_channel (dma : Dma) (port : Port) :
    dma.setChannel port (dma.channel port) = dma := by
  rw [setChannel, Dma.channel]
  simp

/-- A register which has been written shows what it keeps of the value. -/
theorem read_written (hwrite : dma.write register value = .ok after) :
    after.read register = register.shown (dma.read register) value := by
  cases register with
  | base port =>
    have hmask : (0x00ffffff : UInt32) = lowMask 24 := by decide
    cases hwrite
    rw [read, channel_setChannel_self, DmaRegister.shown, hmask]
    exact bits_zero value 23
  | blockControl port =>
    cases hwrite
    rw [read, channel_setChannel_self]
    exact Channel.blockControl_setBlockControl _ value
  | channelControl port =>
    obtain ⟨written, hwritten, rfl⟩ := write_channelControl hwrite
    rw [read, channel_setChannel_self, Channel.control_of_setControl? hwritten]
    by_cases hport : port = .otc
    · subst hport
      exact Channel.controlMask_otc_and value
    · rw [Channel.controlMask_of_ne_otc hport]
      cases port <;> first | rfl | exact absurd rfl hport
  | control =>
    cases hwrite
    rfl
  | interrupt =>
    cases hwrite
    exact dma.interrupts.read_write value

/-- Writing back what a register shows changes nothing, if the fields of the channels are no
longer than in their registers. -/
theorem write_read (hfits : ∀ port, (dma.channel port).Fits) (hflags : register ≠ .interrupt)
    (htable : register ≠ .channelControl .otc) :
    dma.write register (dma.read register) = .ok dma := by
  cases register with
  | base port => rw [write, read, (hfits port).setBase_base, setChannel_channel]
  | blockControl port =>
    rw [write, read, Channel.setBlockControl_blockControl, setChannel_channel]
  | channelControl port =>
    have hport : port ≠ .otc := fun heq => htable (heq ▸ rfl)
    simp only [write, read, (hfits port).restore hport, setChannel_channel]
  | control => rfl
  | interrupt => exact absurd rfl hflags

/-- A write is refused for one reason only. -/
theorem write_eq_error_iff {fault : DmaFault} :
    dma.write register value = .error fault ↔
      fault = .invalidSyncMode 3 ∧ bits value 9 10 = 3 ∧
        ∃ port ≠ .otc, register = .channelControl port := by
  cases register with
  | channelControl port =>
    rw [write]
    cases hwritten : Channel.setControl? port (dma.channel port) value with
    | some written =>
      have haccepted : ¬(port ≠ .otc ∧ Channel.syncNumber value = 3) := by
        rw [← @Channel.setControl?_eq_none_iff (dma.channel port), hwritten]
        exact Option.some_ne_none written
      constructor
      · intro h
        cases h
      · rintro ⟨-, hnumber, other, hother, heq⟩
        cases heq
        exact absurd ⟨hother, hnumber⟩ haccepted
    | none =>
      obtain ⟨hport, hnumber⟩ := Channel.setControl?_eq_none_iff.mp hwritten
      simp only [Except.error.injEq, hnumber]
      exact ⟨fun heq => ⟨heq.symm, hnumber, port, hport, rfl⟩, fun heq => heq.1.symm⟩
  | _ =>
    constructor
    · intro h
      cases h
    · rintro ⟨-, -, port, -, heq⟩
      cases heq

/-- Whether a value written at an offset asks for a sync mode that does not exist. The ordering
table does not look at it. -/
def AsksNoMode (offset value : UInt32) : Prop :=
  bits value 9 10 = 3 ∧
    ∃ port ≠ Port.otc, offset.toNat % 128 = (DmaRegister.channelControl port).offset

/-- A load shows the register at its offset. -/
theorem load_eq_ok_iff {shown : UInt32} :
    dma.load offset = .ok shown ↔
      ∃ register : DmaRegister,
        offset.toNat % 128 = register.offset ∧ dma.read register = shown := by
  rw [load]
  cases hregister : DmaRegister.ofOffset? offset with
  | none =>
    constructor
    · intro h
      cases h
    · rintro ⟨register, hoffset, -⟩
      rw [DmaRegister.ofOffset?_eq_some_iff.mpr hoffset] at hregister
      cases hregister
  | some register =>
    have hoffset := DmaRegister.ofOffset?_eq_some_iff.mp hregister
    constructor
    · intro h
      cases h
      exact ⟨register, hoffset, rfl⟩
    · rintro ⟨other, hother, rfl⟩
      rw [DmaRegister.ofOffset?_eq_some_iff.mpr hother] at hregister
      cases hregister
      rfl

/-- A store writes the register at its offset. -/
theorem store_of_offset (hoffset : offset.toNat % 128 = register.offset) :
    dma.store offset value =
      (dma.write register value).map fun after => (after, after.ready? register) := by
  rw [store, DmaRegister.ofOffset?_eq_some_iff.mpr hoffset]
  cases hwrite : dma.write register value <;> simp only [hwrite, Except.map]

/-- What a store which is accepted leaves behind. -/
structure StoreLeaves (dma : Dma) (offset value : UInt32) (register : DmaRegister) (after : Dma)
    (ready? : Option Port) : Prop where
  /-- The register is the one at the offset. -/
  place : offset.toNat % 128 = register.offset
  /-- It shows what it keeps of the value. -/
  same : ∃ before, dma.load offset = .ok before ∧
    after.load offset = .ok (register.shown before value)
  /-- All other offsets are loaded as before. -/
  others : ∀ other : UInt32, other.toNat % 128 ≠ offset.toNat % 128 →
    after.load other = dma.load other
  /-- The port of a channel is reported if the channel of the register is enabled, and started
  unless it waits for its device. -/
  ready : ∀ port, ready? = some port ↔ register.port? = some port ∧
    (after.channel port).enable = true ∧
      ((after.channel port).sync ≠ .manual ∨ (after.channel port).trigger = true)

/-- Other offsets are loaded as before a write. -/
theorem load_write (hwrite : dma.write register value = .ok after)
    (hother : offset.toNat % 128 ≠ register.offset) : after.load offset = dma.load offset := by
  rw [load, load]
  cases hregister : DmaRegister.ofOffset? offset with
  | none => rfl
  | some other =>
    have hne : other ≠ register := by
      rintro rfl
      exact hother (DmaRegister.ofOffset?_eq_some_iff.mp hregister)
    exact congrArg Except.ok (read_write hwrite hne)

/-- A store which is accepted writes its register and no other one. -/
theorem storeLeaves {ready? : Option Port} (h : dma.store offset value = .ok (after, ready?)) :
    ∃ register, dma.StoreLeaves offset value register after ready? := by
  cases hregister : DmaRegister.ofOffset? offset with
  | none =>
    rw [store, hregister] at h
    cases h
  | some register =>
    have hoffset := DmaRegister.ofOffset?_eq_some_iff.mp hregister
    rw [store_of_offset hoffset] at h
    cases hwrite : dma.write register value with
    | error fault =>
      rw [hwrite] at h
      cases h
    | ok written =>
      rw [hwrite] at h
      cases h
      refine ⟨register, hoffset, ⟨dma.read register, ?_, ?_⟩, fun other hother => ?_,
        fun port => ?_⟩
      · exact load_eq_ok_iff.mpr ⟨register, hoffset, rfl⟩
      · exact load_eq_ok_iff.mpr ⟨register, hoffset, read_written hwrite⟩
      · exact load_write hwrite (hoffset ▸ hother)
      · rw [ready?, Option.filter_eq_some_iff, Channel.isActive_iff]

/-- A store asks for a mode that does not exist, or is accepted where there is a register. -/
theorem store_eq_ok_iff :
    (∃ done, dma.store offset value = .ok done) ↔
      (∃ shown, dma.load offset = .ok shown) ∧ ¬AsksNoMode offset value := by
  constructor
  · rintro ⟨⟨after, ready?⟩, hstore⟩
    obtain ⟨register, hleaves⟩ := storeLeaves hstore
    obtain ⟨before, hload, -⟩ := hleaves.same
    refine ⟨⟨before, hload⟩, ?_⟩
    rintro ⟨hnumber, port, hport, hplace⟩
    rw [store_of_offset hplace, write_eq_error_iff.mpr ⟨rfl, hnumber, port, hport, rfl⟩] at hstore
    cases hstore
  · rintro ⟨⟨shown, hload⟩, hmode⟩
    obtain ⟨register, hoffset, -⟩ := load_eq_ok_iff.mp hload
    rw [store_of_offset hoffset]
    cases hwrite : dma.write register value with
    | ok after => exact ⟨_, rfl⟩
    | error fault =>
      obtain ⟨-, hnumber, port, hport, rfl⟩ := write_eq_error_iff.mp hwrite
      exact absurd ⟨hnumber, port, hport, hoffset⟩ hmode

/-- A store is refused for its mode if it asks for one that does not exist. -/
theorem store_eq_invalidSyncMode_iff {number : UInt32} :
    dma.store offset value = .error (.invalidSyncMode number) ↔
      number = 3 ∧ AsksNoMode offset value := by
  constructor
  · intro h
    cases hregister : DmaRegister.ofOffset? offset with
    | none =>
      rw [store, hregister] at h
      cases h
    | some register =>
      have hoffset := DmaRegister.ofOffset?_eq_some_iff.mp hregister
      rw [store_of_offset hoffset] at h
      cases hwrite : dma.write register value with
      | ok after =>
        rw [hwrite] at h
        cases h
      | error fault =>
        rw [hwrite] at h
        cases h
        obtain ⟨hfault, hnumber, port, hport, rfl⟩ := write_eq_error_iff.mp hwrite
        cases hfault
        exact ⟨rfl, hnumber, port, hport, hoffset⟩
  · rintro ⟨rfl, hnumber, port, hport, hplace⟩
    rw [store_of_offset hplace, write_eq_error_iff.mpr ⟨rfl, hnumber, port, hport, rfl⟩]
    rfl

/-- After every sequence of stores to the controller and of transfers that end, the registers
read back. A store which is accepted shows at its own offset: an address in 24 bits, a size and
the shared control register in full, the control register of a channel in its fields, of which
the ordering table has three, and the interrupt register in its fields with the flags to which
no one was written, and with the line that follows from these. It shows at no other offset,
and reports the port of its channel if that is active. Writing back what has been loaded
changes nothing but flags and the control register of the ordering table. There is a register
to store to where there is one to load from, and it is refused only if a channel other than
that of the ordering table is given a sync mode which does not exist. -/
theorem load_after_store (operations : List Operation) (offset value : UInt32) :
    let dma := powerOn.performAll operations
    (∀ after ready?, dma.store offset value = .ok (after, ready?) →
      ∃ register, dma.StoreLeaves offset value register after ready?) ∧
    (∀ register before, offset.toNat % 128 = register.offset → register ≠ .interrupt →
      register ≠ .channelControl .otc → dma.load offset = .ok before →
      dma.store offset before = .ok (dma, dma.ready? register)) ∧
    ((∃ before, dma.load offset = .ok before) ↔
      ∃ register : DmaRegister, offset.toNat % 128 = register.offset) ∧
    ((∃ done, dma.store offset value = .ok done) ↔
      (∃ before, dma.load offset = .ok before) ∧ ¬AsksNoMode offset value) ∧
    ∀ number, dma.store offset value = .error (.invalidSyncMode number) ↔
      number = 3 ∧ AsksNoMode offset value := by
  intro dma
  have hfits := invariant_performAll Channel.isInvariant_fits operations
  refine ⟨fun after ready? => storeLeaves, ?_, ?_, store_eq_ok_iff,
    fun number => store_eq_invalidSyncMode_iff⟩
  · intro register before hoffset hflags htable hload
    obtain ⟨other, hother, rfl⟩ := load_eq_ok_iff.mp hload
    have hsame : other = register := by
      rw [← DmaRegister.ofOffset?_eq_some_iff] at hoffset hother
      exact Option.some.inj (hother.symm.trans hoffset)
    rw [hsame, store_of_offset hoffset, write_read hfits hflags htable]
    rfl
  · simp only [load_eq_ok_iff]
    constructor
    · rintro ⟨before, register, hoffset, -⟩
      exact ⟨register, hoffset⟩
    · rintro ⟨register, hoffset⟩
      exact ⟨_, register, hoffset, rfl⟩

/-- Two of seven flags are set when one of them is acknowledged, and the line falls since no
channel is enabled any more. The control register of the graphics processor is written back
with a transfer in progress, and refused with the number of no mode. -/
theorem load_after_store_flags :
    let dma := powerOn.performAll [.store 0x74 0x00ffffff, .complete .gpu, .complete .otc,
      .store 0x28 0x11000601, .store 0x28 0x21000401]
    dma.load 0x74 = .ok 0xc4ff803f ∧
      (∃ after, dma.store 0x74 0x04800001 = .ok (after, none) ∧
        after.load 0x74 = .ok 0x40800001 ∧
        dma.StoreLeaves 0x74 0x04800001 .interrupt after none) ∧
      dma.load 0xa8 = .ok 0x21000401 ∧ dma.store 0xa8 0x21000401 = .ok (dma, some .gpu) ∧
      dma.store 0xa8 0x600 = .error (.invalidSyncMode 3) := by
  intro dma
  obtain ⟨hleaves, -⟩ := load_after_store [.store 0x74 0x00ffffff, .complete .gpu,
    .complete .otc, .store 0x28 0x11000601, .store 0x28 0x21000401] 0x74 0x04800001
  obtain ⟨-, hback, -, -, hmode⟩ := load_after_store [.store 0x74 0x00ffffff, .complete .gpu,
    .complete .otc, .store 0x28 0x11000601, .store 0x28 0x21000401] 0xa8 0x600
  have hstore : dma.store 0x74 0x04800001 =
      .ok ({ dma with interrupts := dma.interrupts.write 0x04800001 }, none) := rfl
  have hload : dma.load 0xa8 = .ok 0x21000401 := by decide
  obtain ⟨register, hregister⟩ := hleaves _ _ hstore
  have hflags : register = .interrupt := by
    have hplace := DmaRegister.ofOffset?_eq_some_iff.mpr hregister.place
    exact (Option.some.inj hplace).symm
  refine ⟨by decide, ⟨_, hstore, by decide, hflags ▸ hregister⟩, hload, ?_, ?_⟩
  · exact hback (.channelControl .gpu) _ rfl nofun nofun hload
  · exact (hmode 3).mpr ⟨rfl, rfl, .gpu, nofun, rfl⟩

end Dma

end Playstation
