import Playstation.Proofs.Checked.Gpu
import Playstation.Proofs.Field
import Playstation.Proofs.History

/-!
# Sequences of operations of the graphics processor

The graphics processor is used by writes to its two ports and by reads of its
read port, in any order. What holds after a sequence is shown for one more
operation at its end. A write to the control port keeps the phase of the
drawing port or ends it, and a read matters in one phase only. The top byte of
the first word of a command says which command it is and how many words it has,
and they are executed with the last of them.
-/

namespace Playstation

/-- The words of a polygon are the positions of its vertices, their texture coordinates if
it has a texture and their colours if it is shaded. The command word holds the first of
the colours, and the only one of a polygon which is not shaded. -/
theorem polygonLength_eq (opcode : UInt32) :
    polygonLength opcode =
      (if bit opcode 3 then 4 else 3) * (1 + (bit opcode 2).toNat + (bit opcode 4).toNat) +
        (!bit opcode 4).toNat := by
  rw [polygonLength]
  cases bit opcode 2 <;> cases bit opcode 3 <;> cases bit opcode 4 <;> rfl

/-- The words of a single line: a second colour comes with shading. -/
theorem lineLength_eq (opcode : UInt32) : lineLength opcode = 3 + (bit opcode 4).toNat := by
  rw [lineLength]
  cases bit opcode 4 <;> rfl

/-- The words of a rectangle: a texture coordinate comes with a texture, and a size if both
bits for a fixed size are clear. -/
theorem rectLength_eq (opcode : UInt32) :
    rectLength opcode = 2 + (bit opcode 2).toNat + (!bit opcode 3 && !bit opcode 4).toNat := by
  have hsize : bits opcode 3 4 = 0 ↔ bit opcode 3 = false ∧ bit opcode 4 = false := by
    rw [bits_eq_zero_iff opcode (by decide) (by decide)]
    constructor
    · exact fun h => ⟨h 3 (by decide) (by decide), h 4 (by decide) (by decide)⟩
    · rintro ⟨hthree, hfour⟩ i hlow hhigh
      obtain rfl | rfl : i = 3 ∨ i = 4 := by omega
      · exact hthree
      · exact hfour
  simp only [rectLength, hsize]
  cases bit opcode 2 <;> cases bit opcode 3 <;> cases bit opcode 4 <;> rfl

/-- The top byte of a word selects the command that is followed by parameters, if there is
one, and how many words it has, the first one included. -/
theorem Gp0Start.ofWord_eq_collect_iff {word : UInt32} {command : Gp0Command} {length : Nat} :
    ofWord word = .collect command length ↔
      let opcode := topByte word
      match command with
      | .fillRect => opcode = 0x02 ∧ length = 3
      | .polygon => 0x20 ≤ opcode ∧ opcode < 0x40 ∧
        length =
          (if bit opcode 3 then 4 else 3) * (1 + (bit opcode 2).toNat + (bit opcode 4).toNat) +
            (!bit opcode 4).toNat
      | .line => 0x40 ≤ opcode ∧ opcode < 0x60 ∧ bit opcode 3 = false ∧
        length = 3 + (bit opcode 4).toNat
      | .rect => 0x60 ≤ opcode ∧ opcode < 0x80 ∧
        length = 2 + (bit opcode 2).toNat + (!bit opcode 3 && !bit opcode 4).toNat
      | .vramToVram => 0x80 ≤ opcode ∧ opcode < 0xa0 ∧ length = 4
      | .cpuToVram => 0xa0 ≤ opcode ∧ opcode < 0xc0 ∧ length = 3
      | .vramToCpu => 0xc0 ≤ opcode ∧ opcode < 0xe0 ∧ length = 3 := by
  rw [ofWord]
  generalize topByte word = opcode
  have hfill : opcode = 0x02 ↔ opcode.toNat = 0x02 := UInt32.toNat_inj.symm
  simp only [← polygonLength_eq, ← lineLength_eq, ← rectLength_eq, hfill,
    UInt32.lt_iff_toNat_lt, UInt32.le_iff_toNat_le, UInt32.reduceToNat]
  constructor
  · intro h
    repeat' split at h
    all_goals cases h
    all_goals and_intros <;> first | omega | rfl | exact Bool.eq_false_iff.mpr ‹_›
  · intro h
    cases command with
    | fillRect =>
      obtain ⟨hcode, rfl⟩ := h
      simp only [hcode]
      rfl
    | line =>
      obtain ⟨hlow, hhigh, hsingle, rfl⟩ := h
      rw [if_neg (by omega), if_neg (by omega), if_pos hhigh, hsingle]
      rfl
    | polygon | rect | vramToVram | cpuToVram | vramToCpu =>
      obtain ⟨hlow, hhigh, rfl⟩ := h
      repeat' split
      all_goals first | rfl | omega

namespace Gpu

/-- What can be done with the graphics processor. -/
inductive Operation where
  /-- Write a word to the drawing port. -/
  | gp0 (word : UInt32)
  /-- Write a word to the control port. -/
  | gp1 (word : UInt32)
  /-- Read the read port. -/
  | read
  deriving DecidableEq

/-- The word which an operation writes to the drawing port, if it does. -/
def Operation.drawWord? : Operation → Option UInt32
  | gp0 word => some word
  | gp1 _ | read => none

/-- The graphics processor after an operation. -/
def perform (gpu : Gpu) (operation : Operation) : Gpu :=
  match operation with
  | .gp0 word => gpu.gp0 word
  | .gp1 word => gpu.gp1 word
  | .read => gpu.read

/-- The graphics processor after a sequence of operations. -/
def performAll (gpu : Gpu) (operations : List Operation) : Gpu := operations.foldl perform gpu

/-- The last operation of a sequence finds what the others leave. -/
theorem performAll_concat (gpu : Gpu) (operations : List Operation) (operation : Operation) :
    gpu.performAll (operations ++ [operation]) =
      (gpu.performAll operations).perform operation := by
  rw [performAll, List.foldl_append]
  rfl

/-- What an operation returns which leaves the given word in the latch. -/
def Operation.returned (latch : UInt32) : Operation → List UInt32
  | read => [latch]
  | gp0 _ | gp1 _ => []

/-- The words which the reads of a sequence return, in order. -/
def readings (gpu : Gpu) : List Operation → List UInt32
  | [] => []
  | operation :: operations =>
    operation.returned (gpu.perform operation).latch ++ (gpu.perform operation).readings operations

variable {gpu : Gpu}

/-- Writing a word to the control port keeps the phase or ends it. -/
theorem phase_gp1 (gpu : Gpu) (word : UInt32) :
    (gpu.gp1 word).phase = gpu.phase ∨ (gpu.gp1 word).phase = .idle := by
  rw [gp1]
  split
  case h_1 | h_2 => exact .inr rfl
  case h_10 =>
    refine .inl ?_
    split
    · rw [ask]
      split <;> rfl
    · rfl
  all_goals exact .inl rfl

/-- The phase tells whether the drawing port waits for a command. -/
theorem isIdle_congr {other : Gpu} (h : gpu.phase = other.phase) : gpu.isIdle = other.isIdle := by
  rw [isIdle, isIdle, h]

/-- A word which is written to the control port and leaves a command unfinished
keeps its phase. -/
theorem phase_gp1_of_busy {word : UInt32} (h : (gpu.gp1 word).isIdle = false) :
    (gpu.gp1 word).phase = gpu.phase := by
  rcases phase_gp1 gpu word with hsame | hidle
  · exact hsame
  · rw [isIdle, hidle] at h
    cases h

/-- A word which finds the drawing port waiting starts a command. -/
theorem gp0_of_isIdle (h : gpu.isIdle = true) (word : UInt32) : gpu.gp0 word = gpu.start word := by
  rw [isIdle] at h
  rw [gp0]
  cases hphase : gpu.phase with
  | idle | loading => rfl
  | collecting | polyLine | storing =>
    rw [hphase] at h
    cases h

/-- What a command does is the same in every phase. -/
theorem execute_withPhase (phase : Gp0Phase) (command : Gp0Command) (words : Array UInt32) :
    ({ gpu with phase } : Gpu).execute command words = gpu.execute command words := by
  cases command <;> rfl

/-- A command is executed when as many parameters have arrived as were still to
come. -/
theorem foldl_gp0_collecting {command : Gp0Command} {buffer : Array UInt32}
    {parameters : List UInt32} (hpos : 0 < parameters.length)
    (hphase : gpu.phase = .collecting command buffer parameters.length) :
    parameters.foldl gp0 gpu = gpu.execute command (buffer ++ parameters.toArray) := by
  induction parameters generalizing gpu buffer with
  | nil => cases hpos
  | cons parameter parameters ih =>
    have hbuffer : buffer ++ (parameter :: parameters).toArray =
        buffer.push parameter ++ parameters.toArray := by
      apply Array.toList_inj.mp
      simp only [Array.toList_append, Array.toList_push, List.append_assoc, List.singleton_append]
    rw [List.foldl_cons, gp0, hphase, hbuffer]
    simp only [List.length_cons, Nat.add_sub_cancel]
    cases parameters with
    | nil => rfl
    | cons second parameters =>
      rw [if_pos (by rw [List.length_cons]; omega), ih (Nat.succ_pos _) rfl, execute_withPhase]

/-- A command is executed with the word that finds the drawing port waiting and
as many words after it as that word says. -/
theorem foldl_gp0_command {command : Gp0Command} {word : UInt32} {parameters : List UInt32}
    (hidle : gpu.isIdle = true)
    (hword : Gp0Start.ofWord word = .collect command (parameters.length + 1)) :
    (word :: parameters).foldl gp0 gpu = gpu.execute command (word :: parameters).toArray := by
  have hpos := (Gp0Start.length_bounds hword).1
  have hstart : gpu.gp0 word =
      { gpu with phase := .collecting command #[word] parameters.length } := by
    rw [gp0_of_isIdle hidle, start, hword]
    rfl
  rw [List.foldl_cons, hstart, foldl_gp0_collecting (by omega) rfl, execute_withPhase,
    ← List.toArray_cons]

/-- The port does not wait for a command before all parameters have arrived. -/
theorem isIdle_foldl_collecting {command : Gp0Command} {buffer : Array UInt32} {remaining : Nat}
    {parameters : List UInt32} (hphase : gpu.phase = .collecting command buffer remaining)
    (h : parameters.length < remaining) : (parameters.foldl gp0 gpu).isIdle = false := by
  induction parameters generalizing gpu buffer remaining with
  | nil =>
    rw [List.foldl_nil, isIdle, hphase]
  | cons parameter parameters ih =>
    rw [List.length_cons] at h
    rw [List.foldl_cons, gp0, hphase]
    simp only
    rw [if_pos (by omega)]
    exact ih rfl (by omega)

/-- So it does not wait between the first and the last word of a command. -/
theorem isIdle_foldl_command {command : Gp0Command} {word : UInt32} {length : Nat}
    {parameters : List UInt32} (hidle : gpu.isIdle = true)
    (hword : Gp0Start.ofWord word = .collect command length) (h : parameters.length + 1 < length) :
    ((word :: parameters).foldl gp0 gpu).isIdle = false := by
  have hstart : (gpu.gp0 word).phase = .collecting command #[word] (length - 1) := by
    rw [gp0_of_isIdle hidle, start, hword]
  rw [List.foldl_cons]
  exact isIdle_foldl_collecting hstart (by omega)

/-- A read is noticed only while the drawing port waits for a command. -/
theorem read_of_busy (h : gpu.isIdle = false) : gpu.read = gpu := by
  rw [isIdle] at h
  rw [read]
  cases hphase : gpu.phase with
  | loading image done =>
    rw [hphase] at h
    cases h
  | _ => rfl

/-- A read does not start a command. -/
theorem isIdle_read : gpu.read.isIdle = gpu.isIdle := by
  cases hidle : gpu.isIdle with
  | false => rw [read_of_busy hidle, hidle]
  | true =>
    rw [isIdle] at hidle
    rw [read]
    cases hphase : gpu.phase with
    | idle => rw [isIdle, hphase]
    | loading image done =>
      by_cases hleft : done + 2 < image.area
      · simp only [isIdle, hleft, if_true]
      · simp only [isIdle, hleft, if_false]
    | collecting | polyLine | storing =>
      rw [hphase] at hidle
      cases hidle

/-- Performing an operation leaves a valid phase. -/
theorem perform_valid (h : gpu.phase.Valid) (operation : Operation) :
    (gpu.perform operation).phase.Valid := by
  cases operation with
  | gp0 word => exact gp0_valid h word
  | gp1 word => exact gp1_valid h word
  | read => exact read_valid h

/-- The phase is valid after every sequence of operations from power on. -/
theorem valid_performAll (operations : List Operation) :
    (powerOn.performAll operations).phase.Valid := by
  induction operations using List.reverseRecOn with
  | nil => trivial
  | append_singleton operations operation ih =>
    rw [performAll_concat]
    exact perform_valid ih operation

end Gpu

end Playstation
