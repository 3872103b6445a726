import Playstation.Proofs.Gpu.Operation
import Playstation.Proofs.Gpu.Place

/-!
# Copies within video memory

A rectangle is copied pixel by pixel, so that a pixel may be overwritten before it is
its turn to be read. If that happens to none, the copy shows what the source has shown
before, also if the two overlap or wrap around the edges. The loop keeps a cursor in
each rectangle and looks at the first one only to find its end, which is the end of the
other one, too.
-/

namespace Playstation

namespace Rect

variable {source target rect : Rect}

/-- No pixel of the source is written, as one of the target, before it is read. -/
def ReadFirst (source target : Rect) : Prop :=
  ∀ i j, i < j → j < source.area → target.place i ≠ source.place j

/-- This is so if the rectangles have no place in common. -/
theorem ReadFirst.of_disjoint
    (h : ∀ i < source.area, ∀ j < source.area, target.place i ≠ source.place j) :
    source.ReadFirst target :=
  fun _ _ hij hj => h _ (Nat.lt_trans hij hj) _ hj

/-- It is so if they are the same, as each pixel is then read right before it is
written. -/
theorem ReadFirst.self (h : rect.Bounded) : rect.ReadFirst rect :=
  fun _ _ hij hj hsame => Nat.ne_of_lt hij ((h.place_inj (Nat.lt_trans hij hj) hj).mp hsame)

end Rect

namespace Vram

variable {before vram : Vram} {source target : Rect} {k : Nat}

/-- The rest of a copy paints the rest of the target with what the source has shown. -/
theorem paints_copyFrom (htarget : target.Bounded) (harea : target.area = source.area)
    (hread : source.ReadFirst target) (count : Nat) (hcount : k + count = source.area)
    (h : before.Paints vram target k fun i => before.pixelAt (source.place i)) :
    before.Paints (copyFrom source target count k vram) target source.area
      fun i => before.pixelAt (source.place i) := by
  induction count generalizing k vram with
  | zero => exact hcount ▸ h
  | succ count ih =>
    -- The pixel to read is none of those which have been written.
    have hunread : vram.getIn source k = before.pixelAt (source.place k) := by
      rw [getIn_eq]
      exact h.kept _ fun i hi => hread i k hi (by omega)
    exact ih (by omega) (h.setIn htarget (by omega) hunread)

/-- Copying by cursors is done in the round after as many as there are pixels. -/
theorem checkedCopy_eq_copy (hsource : source.Bounded) (htarget : target.Bounded)
    (harea : target.area = source.area) (limit : Nat) (vram : Vram) :
    checkedCopy limit (.ofPixel source 0) (.ofPixel target 0) vram =
      if source.area < limit then some (vram.copy source target) else none := by
  split
  · next hlimit =>
    exact checkedCopy_eq hsource htarget harea limit source.area hlimit (Nat.zero_add _) vram
  · next hlimit => exact checkedCopy_eq_none hsource htarget harea limit (by omega) vram

end Vram

namespace Gpu

variable {gpu : Gpu} {word : UInt32}

/-- A copy within video memory is announced by four words. -/
theorem collects_copy (h : 0x80 ≤ topByte word ∧ topByte word < 0xa0) :
    Gp0Start.ofWord word = .collect .vramToVram 4 :=
  Gp0Start.ofWord_eq_collect_iff.mpr ⟨h.1, h.2, rfl⟩

/-- What a copy within video memory leaves of the graphics processor. -/
structure ImageCopied (before after : Gpu) (source target : Rect) : Prop where
  /-- The drawing port waits for a command. -/
  idle : after.isIdle = true
  /-- The target shows what the source has shown, and all else is kept. -/
  paints : before.vram.Paints after.vram target source.area
    fun k => before.vram.pixelAt (source.place k)
  /-- Nothing changes but video memory and the phase of the drawing port. -/
  rest : after = { before with phase := .idle, vram := after.vram }

/-- A copy within video memory of which no pixel is overwritten before it is read shows
at the target what the source has shown. All other pixels are kept, and the drawing port
waits for a command. No pixel is overwritten too early if the rectangles are disjoint or
the same. In any case the loop over two cursors, from those which the words of the command
say, has a result if it may take more rounds than there are pixels, and only then: it
ends as soon as all are copied. -/
theorem image_copied (hidle : gpu.isIdle = true)
    (hword : 0x80 ≤ topByte word ∧ topByte word < 0xa0)
    (sourcePosition targetPosition size : UInt32) :
    let source := Rect.ofImageWords sourcePosition size
    let target := Rect.ofImageWords targetPosition size
    let after := [word, sourcePosition, targetPosition, size].foldl gp0 gpu
    (source.ReadFirst target → gpu.ImageCopied after source target) ∧
    ((∀ i < source.area, ∀ j < source.area, target.place i ≠ source.place j) ∨
      target = source → source.ReadFirst target) ∧
    ∃ first last, Cursor.checkedOfWords sourcePosition size = some first ∧
      Cursor.checkedOfWords targetPosition size = some last ∧
      ∀ limit, Vram.checkedCopy limit first last gpu.vram =
        if source.area < limit then some after.vram else none := by
  intro source target after
  have hsource : source.Bounded := Rect.bounded_ofImageWords sourcePosition size
  have htarget : target.Bounded := Rect.bounded_ofImageWords targetPosition size
  have harea : target.area = source.area := rfl
  have hafter : after = { gpu with phase := .idle, vram := gpu.vram.copy source target } := by
    have hcommand : Gp0Start.ofWord word =
        .collect .vramToVram ([sourcePosition, targetPosition, size].length + 1) :=
      collects_copy hword
    exact foldl_gp0_command hidle hcommand
  refine ⟨fun hread => ?_, ?_, _, _, Cursor.checkedOfWords_eq sourcePosition size,
    Cursor.checkedOfWords_eq targetPosition size, fun limit => ?_⟩
  · rw [hafter]
    exact ⟨rfl, Vram.paints_copyFrom htarget harea hread source.area (Nat.zero_add _)
      (.zero gpu.vram target _), rfl⟩
  · rintro (hdisjoint | hsame)
    · exact .of_disjoint hdisjoint
    · rw [hsame]
      exact .self hsource
  · rw [hafter]
    exact Vram.checkedCopy_eq_copy hsource htarget harea limit gpu.vram

/-- Two pixels in a row at the left edge are moved by one to the left, where they wrap
around. The place of the first one is overwritten after that one is read. -/
theorem image_copied_left :
    let gpu := { powerOn with vram := (Vram.powerOn.set 0 0 0x1111).set 1 0 0x2222 }
    let source := Rect.ofImageWords 0x00000000 0x00010002
    let target := Rect.ofImageWords 0x000003ff 0x00010002
    let after := [0x80000000, 0x00000000, 0x000003ff, 0x00010002].foldl gp0 gpu
    gpu.isIdle = true ∧ (0x80 ≤ topByte 0x80000000 ∧ topByte 0x80000000 < 0xa0) ∧
    source.ReadFirst target ∧ target.place 1 = source.place 0 ∧ after.isIdle = true ∧
    after.vram.pixelAt (1023, 0) = 0x1111 ∧ after.vram.pixelAt (0, 0) = 0x2222 ∧
    after.vram.pixelAt (1, 0) = 0x2222 := by
  intro gpu source target after
  have hidle : gpu.isIdle = true := rfl
  have hword : 0x80 ≤ topByte 0x80000000 ∧ topByte 0x80000000 < 0xa0 := by decide
  have hread : source.ReadFirst target := by
    intro i j hij hj
    have harea : source.area = 2 := by decide
    obtain ⟨rfl, rfl⟩ : i = 0 ∧ j = 1 := by omega
    decide
  have hshown (x : Nat) : gpu.vram.get x 0 =
      if 1 % 1024 = x % 1024 then 0x2222 else if 0 % 1024 = x % 1024 then 0x1111
      else Vram.powerOn.get x 0 := by
    simp only [gpu, Vram.get_set, and_true]
  have hcopied := (image_copied hidle hword 0x00000000 0x000003ff 0x00010002).1 hread
  refine ⟨hidle, hword, hread, by decide, hcopied.idle, ?_, ?_, ?_⟩
  · exact (hcopied.paints.painted 0 (by decide)).trans (hshown 0)
  · exact (hcopied.paints.painted 1 (by decide)).trans (hshown 1)
  · exact (hcopied.paints.kept (1, 0) (by decide)).trans (hshown 1)

end Gpu

end Playstation
