import Playstation.Proofs.Gpu.Image
import Playstation.Proofs.Gpu.ReadPort

/-!
# Commands while an image is read

An image on its way to the processor is read word by word, and meanwhile the drawing
port waits for commands. The phase of the port has room for one of the two only: any
command, also one that sets a single setting or does nothing, ends the image. The reads
before it have returned the words of the image, and those after it repeat the last one.
The settings do not depend on when they are made.
-/

namespace Playstation

/-- The word is a command of its own which leaves video memory: it does nothing, asks for
an interrupt or sets how to draw. -/
def IsSettingWord (word : UInt32) : Prop :=
  topByte word ∈ ([0x00, 0x01, 0x1f, 0xe1, 0xe2, 0xe3, 0xe4, 0xe5, 0xe6] : List UInt32)

instance (word : UInt32) : Decidable (IsSettingWord word) :=
  inferInstanceAs (Decidable (_ ∈ _))

namespace Gpu

/-- How many reads a sequence begins with. -/
def readsFirst (operations : List Operation) : Nat :=
  (operations.takeWhile fun operation => operation = .read).length

/-- Whether an operation is a read or a setting. -/
def Operation.ReadsOrSets : Operation → Prop
  | gp0 word => IsSettingWord word
  | gp1 _ => False
  | read => True

instance : DecidablePred Operation.ReadsOrSets
  | .gp0 word => inferInstanceAs (Decidable (IsSettingWord word))
  | .gp1 _ => instDecidableFalse
  | .read => instDecidableTrue

variable {gpu : Gpu} {word : UInt32} {operations : List Operation}

/-- A command starts in the same way in every phase in which the port waits, and whatever
the latch is. -/
theorem start_with (gpu : Gpu) (phase : Gp0Phase) (latch word : UInt32) :
    ({ gpu with phase, latch } : Gpu).start word = { gpu.start word with latch } := by
  rw [start, start]
  cases Gp0Start.ofWord word <;> rfl

/-- What a word does at the drawing port does not depend on the latch. -/
theorem gp0_withLatch (gpu : Gpu) (latch word : UInt32) :
    ({ gpu with latch } : Gpu).gp0 word = { gpu.gp0 word with latch } := by
  obtain ⟨draw, display, interrupt, phase, before, vram⟩ := gpu
  rw [gp0, gp0]
  cases phase with
  | idle | loading => exact start_with ⟨draw, display, interrupt, _, before, vram⟩ _ latch word
  | collecting command words remaining =>
    dsimp only
    split
    · rfl
    · cases command <;> rfl
  | polyLine =>
    dsimp only
    split <;> rfl
  | storing => rfl

/-- Neither does what several do. -/
theorem foldl_gp0_withLatch (gpu : Gpu) (latch : UInt32) (words : List UInt32) :
    words.foldl gp0 { gpu with latch } = { words.foldl gp0 gpu with latch } := by
  induction words generalizing gpu with
  | nil => rfl
  | cons word words ih => rw [List.foldl_cons, gp0_withLatch, ih, List.foldl_cons]

/-- Words at the drawing port leave the latch. -/
theorem latch_foldl_gp0 (gpu : Gpu) (words : List UInt32) :
    (words.foldl gp0 gpu).latch = gpu.latch := by
  induction words generalizing gpu with
  | nil => rfl
  | cons word words ih => rw [List.foldl_cons, ih, latch_gp0]

/-- Reads change the phase and the latch only, and the drawing port still waits. -/
theorem exists_iterate_read (hidle : gpu.isIdle = true) (count : Nat) :
    ∃ phase latch, read^[count] gpu = { gpu with phase, latch } ∧
      (read^[count] gpu).isIdle = true := by
  induction count generalizing gpu with
  | zero => exact ⟨gpu.phase, gpu.latch, rfl, hidle⟩
  | succ count ih =>
    obtain ⟨phase, latch, hreads, hwaits⟩ := ih (isIdle_read.trans hidle)
    have hread : gpu.read = { gpu with phase := gpu.read.phase, latch := gpu.read.latch } := by
      rw [read]
      split <;> rfl
    refine ⟨phase, latch, ?_, hwaits⟩
    rw [Function.iterate_succ_apply, hreads, hread]

/-- Commands do the same after some reads, except that the latch stays as the reads have
left it. -/
theorem foldl_gp0_iterate_read (hidle : gpu.isIdle = true) (count : Nat) (word : UInt32)
    (words : List UInt32) :
    (word :: words).foldl gp0 (read^[count] gpu) =
      { (word :: words).foldl gp0 gpu with latch := (read^[count] gpu).latch } := by
  obtain ⟨phase, latch, hreads, hwaits⟩ := exists_iterate_read hidle count
  rw [List.foldl_cons, gp0_of_isIdle hwaits, hreads, start_with, foldl_gp0_withLatch,
    ← gp0_of_isIdle hidle]
  rfl

/-- A setting leaves nothing in progress at the drawing port. -/
theorem phase_start_of_setting (h : IsSettingWord word) : (gpu.start word).phase = .idle := by
  simp only [IsSettingWord, List.mem_cons, List.not_mem_nil, or_false] at h
  rcases h with h | h | h | h | h | h | h | h | h <;> rw [start, Gp0Start.ofWord, h] <;> rfl

/-- With nothing in progress each read returns the latch, and settings are made one after
the other. -/
theorem readings_of_done (hphase : gpu.phase = .idle)
    (h : ∀ operation ∈ operations, operation.ReadsOrSets) :
    gpu.readings operations = List.replicate (operations.count .read) gpu.latch ∧
      gpu.performAll operations =
        (operations.filterMap Operation.drawWord?).foldl gp0 gpu := by
  induction operations generalizing gpu with
  | nil => exact ⟨rfl, rfl⟩
  | cons operation operations ih =>
    obtain ⟨hfirst, hrest⟩ := List.forall_mem_cons.mp h
    cases operation with
    | read =>
      have hread : gpu.perform .read = gpu := read_of_done hphase
      obtain ⟨hreadings, hafter⟩ := ih hphase hrest
      refine ⟨?_, ?_⟩
      · rw [readings, hread, hreadings, List.count_cons_self, List.replicate_succ]
        rfl
      · exact (congrArg (performAll · operations) hread).trans hafter
    | gp0 word =>
      have hgp0 : (gpu.gp0 word).phase = .idle := by
        rw [gp0_of_isIdle (isIdle_of_done hphase)]
        exact phase_start_of_setting hfirst
      obtain ⟨hreadings, hafter⟩ := ih hgp0 hrest
      rw [latch_gp0] at hreadings
      exact ⟨hreadings, hafter⟩
    | gp1 word => exact hfirst.elim

/-- Reads before the first setting return what they would without it, and those after it
repeat what the port shows. The settings are those which are made after all reads. -/
theorem readings_of_settings (hidle : gpu.isIdle = true)
    (h : ∀ operation ∈ operations, operation.ReadsOrSets) :
    gpu.readings operations =
        (gpu.reads (operations.count .read)).take (readsFirst operations) ++
          List.replicate (operations.count .read - readsFirst operations)
            (read^[readsFirst operations] gpu).latch ∧
      gpu.performAll operations =
        { (operations.filterMap Operation.drawWord?).foldl gp0
            (read^[operations.count .read] gpu) with
          latch := (read^[readsFirst operations] gpu).latch } := by
  induction operations generalizing gpu with
  | nil => exact ⟨rfl, rfl⟩
  | cons operation operations ih =>
    obtain ⟨hfirst, hrest⟩ := List.forall_mem_cons.mp h
    cases operation with
    | read =>
      obtain ⟨hreadings, hafter⟩ := ih (isIdle_read.trans hidle) hrest
      have hearly : readsFirst (.read :: operations) = readsFirst operations + 1 := rfl
      have hwords : (.read :: operations).filterMap Operation.drawWord? =
          operations.filterMap Operation.drawWord? := rfl
      rw [hearly, hwords, List.count_cons_self, Nat.add_sub_add_right, Function.iterate_succ_apply,
        Function.iterate_succ_apply]
      refine ⟨?_, hafter⟩
      rw [readings, reads, List.take_succ_cons, List.cons_append, ← hreadings]
      rfl
    | gp0 word =>
      -- The setting ends the image, so that the reads behind it find nothing in progress.
      have hgp0 : (gpu.gp0 word).phase = .idle := by
        rw [gp0_of_isIdle hidle]
        exact phase_start_of_setting hfirst
      have hkept (after : Gpu) (hlatch : after.latch = gpu.latch) :
          after = { after with latch := gpu.latch } := by
        rw [← hlatch]
      have hearly : readsFirst (.gp0 word :: operations) = 0 := rfl
      have hwords : (.gp0 word :: operations).filterMap Operation.drawWord? =
          word :: operations.filterMap Operation.drawWord? := rfl
      obtain ⟨hreadings, hafter⟩ := readings_of_done hgp0 hrest
      rw [latch_gp0] at hreadings
      rw [hearly, hwords, foldl_gp0_iterate_read hidle]
      exact ⟨hreadings, hafter.trans (hkept _ (latch_foldl_gp0 gpu (word :: _)))⟩
    | gp1 word => exact hfirst.elim

/-- While an image is read, commands of one word arrive between the reads, of which there
are as many as words left. The reads before the first command return the words of the
image, and that command ends it: from then on each read repeats the word before. So the
reads return what they would without the commands exactly if every word behind the first
command is equal to the one before it, and in particular if none is left then. What the
commands do is the same as if they came after the image. -/
theorem command_ends_image {image : Rect} {done : Nat} (hphase : gpu.phase = .loading image done)
    (hdone : done < image.area) (h : ∀ operation ∈ operations, operation.ReadsOrSets)
    (hreads : operations.count .read = (image.area - done + 1) / 2) :
    let left := (image.area - done + 1) / 2
    let words := imageWords gpu.vram image done left
    let early := readsFirst operations
    let shown := (read^[early] gpu).latch
    gpu.reads left = words ∧
      gpu.readings operations = words.take early ++ List.replicate (left - early) shown ∧
      (gpu.readings operations = words ↔ ∀ word ∈ words.drop early, word = shown) ∧
      gpu.performAll operations =
        { (operations.filterMap Operation.drawWord?).foldl gp0 (read^[left] gpu) with
          latch := shown } := by
  intro left words early shown
  have hidle : gpu.isIdle = true := by rw [isIdle, hphase]
  have hwords : gpu.reads left = words := (reads_loading left hphase hdone rfl).1
  have hlength : (words.drop early).length = left - early := by
    rw [List.length_drop, ← hwords, length_reads]
  obtain ⟨hreadings, hafter⟩ := readings_of_settings hidle h
  rw [hreads] at hreadings hafter
  rw [hwords] at hreadings
  refine ⟨hwords, hreadings, ?_, hafter⟩
  -- The words before the first command are the same in any case.
  have hsplit : gpu.readings operations = words ↔
      List.replicate (left - early) shown = words.drop early := by
    rw [hreadings, ← List.append_cancel_left_eq (words.take early) _ (words.drop early),
      List.take_append_drop]
  rw [hsplit, eq_comm, List.eq_replicate_iff, and_iff_right hlength]

/-- An image of two words is sent and asked for. -/
theorem loading_twoWords :
    let sent := [0xa0000000, 0, 0x00010004, 0x22221111, 0x44443333].foldl gp0 powerOn
    let gpu := [0xc0000000, 0, 0x00010004].foldl gp0 sent
    let image := Rect.ofImageWords 0 0x00010004
    gpu.phase = .loading image 0 ∧ imageWords gpu.vram image 0 2 = [0x22221111, 0x44443333] := by
  intro sent gpu image
  have hstore : IsStoreWord 0xa0000000 := ⟨by decide, by decide⟩
  have hsent := @foldl_gp0_image powerOn _ rfl hstore 0 0x00010004 image rfl
    [0x22221111, 0x44443333] (by decide)
  have hgpu : gpu = { sent with phase := .loading image 0 } :=
    foldl_gp0_load (isIdle_of_done (congrArg phase hsent)) ⟨by decide, by decide⟩ 0 0x00010004
  have hwords := @imageWords_sent powerOn _ rfl hstore 0 0x00010004 image rfl
    [0x22221111, 0x44443333] (by decide)
  have hcount : image.wordCount = 2 := by decide
  have hkept : [0x22221111, 0x44443333].mapIdx (keptWord image) = [0x22221111, 0x44443333] := by
    decide
  rw [hcount, hkept] at hwords
  rw [hgpu]
  exact ⟨rfl, hwords⟩

/-- The drawing offset is set between the two reads, and the second one repeats the first
word. -/
theorem command_ends_image_twoWords :
    let sent := [0xa0000000, 0, 0x00010004, 0x22221111, 0x44443333].foldl gp0 powerOn
    let gpu := [0xc0000000, 0, 0x00010004].foldl gp0 sent
    let image := Rect.ofImageWords 0 0x00010004
    let operations : List Operation := [.read, .gp0 0xe50087f8, .read]
    gpu.phase = .loading image 0 ∧ 0 < image.area ∧
      (∀ operation ∈ operations, operation.ReadsOrSets) ∧
      operations.count .read = (image.area - 0 + 1) / 2 ∧
      gpu.readings operations = [0x22221111, 0x22221111] := by
  intro sent gpu image operations
  obtain ⟨hphase, hwords⟩ := loading_twoWords
  have harea : 0 < image.area := by decide
  have hoperations : ∀ operation ∈ operations, operation.ReadsOrSets := by decide
  have hreads : operations.count .read = (image.area - 0 + 1) / 2 := by decide
  obtain ⟨hreturned, hreadings, -⟩ := command_ends_image hphase harea hoperations hreads
  refine ⟨hphase, harea, hoperations, hreads, hreadings.trans ?_⟩
  have hshown : gpu.read.latch = 0x22221111 := congrArg (List.headD · 0) (hreturned.trans hwords)
  change (imageWords gpu.vram image 0 2).take 1 ++ [gpu.read.latch] = _
  rw [hwords, hshown]
  rfl

/-- A command that does nothing arrives between the two reads, and the second word is not
read any more. -/
theorem nop_ends_image :
    let sent := [0xa0000000, 0, 0x00010004, 0x22221111, 0x44443333].foldl gp0 powerOn
    let gpu := [0xc0000000, 0, 0x00010004].foldl gp0 sent
    let image := Rect.ofImageWords 0 0x00010004
    gpu.phase = .loading image 0 ∧ (image.area - 0 + 1) / 2 = 2 ∧ IsSettingWord 0 ∧
      gpu.readings [.read, .read] = [0x22221111, 0x44443333] ∧
      gpu.readings [.read, .gp0 0, .read] = [0x22221111, 0x22221111] := by
  intro sent gpu image
  obtain ⟨hphase, hwords⟩ := loading_twoWords
  have hreturned : gpu.reads 2 = imageWords gpu.vram image 0 2 :=
    (reads_loading 2 hphase (by decide) (by decide)).1
  have hall : gpu.readings [.read, .read] = [0x22221111, 0x44443333] := hreturned.trans hwords
  have hfirst : gpu.read.latch = 0x22221111 := congrArg (List.headD · 0) hall
  have hidle : gpu.read.isIdle = true := isIdle_read.trans (by rw [isIdle, hphase])
  have hdone : (gpu.read.gp0 0).phase = .idle := by
    rw [gp0_of_isIdle hidle]
    exact phase_start_of_setting (by decide)
  have hstale : (gpu.read.gp0 0).read.latch = 0x22221111 := by
    rw [read_of_done hdone, latch_gp0, hfirst]
  refine ⟨hphase, by decide, by decide, hall, ?_⟩
  change [gpu.read.latch, (gpu.read.gp0 0).read.latch] = _
  rw [hfirst, hstale]

end Gpu

end Playstation
