import Playstation.Bus.Transfer
import Playstation.Proofs.Gpu.Framing

/-!
# The read port

An image on its way to the processor is the list of its pixels which have not
been read yet. A read takes the next two of them to the latch, or the last one
if there is only one left, and the port shows the latch from then on: of the
words written to the processor only those to the control port change it.
-/

namespace Playstation

namespace Gpu

/-- Whether an image is on its way to the processor. -/
def isLoading (gpu : Gpu) : Bool :=
  match gpu.phase with
  | .loading _ _ => true
  | _ => false

/-- The pixels on their way to the processor which have not been read yet. -/
def unread (gpu : Gpu) : List UInt16 :=
  match gpu.phase with
  | .loading image done => (List.range' done (image.area - done)).map (gpu.vram.getIn image)
  | _ => []

/-- The word which up to two pixels make up, with the first in the low half. -/
def packPixels : List UInt16 → UInt32
  | [] => 0
  | [low] => low.toUInt32
  | low :: high :: _ => low.toUInt32 ||| high.toUInt32 <<< 16

/-- A word of an image is made up of its next pixels. -/
theorem imageWord_eq (vram : Vram) (image : Rect) (k : Nat) :
    imageWord vram image k =
      packPixels (((List.range' k (image.area - k)).map (vram.getIn image)).take 2) := by
  rw [imageWord]
  obtain hnone | hone | ⟨more, htwo⟩ : image.area - k = 0 ∨ image.area - k = 1 ∨
      ∃ more, image.area - k = more + 2 := by
    match image.area - k with
    | 0 => exact .inl rfl
    | 1 => exact .inr (.inl rfl)
    | more + 2 => exact .inr (.inr ⟨more, rfl⟩)
  · rw [hnone, if_neg (show ¬k + 1 < image.area by omega), if_neg (show ¬k < image.area by omega)]
    rfl
  · rw [hone, if_neg (show ¬k + 1 < image.area by omega), if_pos (show k < image.area by omega)]
    rfl
  · rw [htwo, if_pos (show k + 1 < image.area by omega), if_pos (show k < image.area by omega)]
    rfl

variable {gpu : Gpu}

/-- A read takes up to two pixels of an image on its way to the processor, and
leaves the others. -/
theorem read_of_loading {image : Rect} {done : Nat} (hphase : gpu.phase = .loading image done) :
    ∃ taken,
      gpu.read =
        { gpu with
          latch := packPixels taken
          phase := if done + 2 < image.area then .loading image (done + 2) else .idle } ∧
      gpu.unread = taken ++ gpu.read.unread ∧ taken.length = min 2 gpu.unread.length := by
  refine ⟨gpu.unread.take 2, ?_, ?_, List.length_take⟩
  · rw [read, unread, hphase, ← imageWord_eq]
  · have hleft : gpu.read.unread = gpu.unread.drop 2 := by
      rw [read, unread, unread, hphase]
      dsimp only
      rw [← List.map_drop, List.drop_range', Nat.mul_one]
      by_cases hmore : done + 2 < image.area
      · rw [if_pos hmore, Nat.sub_sub]
      · have hnone : image.area - done - 2 = 0 := by omega
        rw [if_neg hmore, hnone]
        rfl
    rw [hleft, List.take_append_drop]

/-- A read takes nothing if no image is on its way. -/
theorem read_of_not_loading (h : gpu.isLoading = false) : gpu.read = gpu := by
  cases hphase : gpu.phase with
  | loading image done =>
    rw [isLoading, hphase] at h
    cases h
  | _ => rw [read, hphase]

/-- The start of a command leaves the latch. -/
theorem latch_start (gpu : Gpu) (word : UInt32) : (gpu.start word).latch = gpu.latch := by
  rw [start]
  cases Gp0Start.ofWord word <;> rfl

/-- A word at the drawing port leaves the latch. -/
theorem latch_gp0 (gpu : Gpu) (word : UInt32) : (gpu.gp0 word).latch = gpu.latch := by
  cases hidle : gpu.isIdle with
  | true => rw [gp0_of_isIdle hidle, latch_start]
  | false => exact (settings_gp0 hidle word).2.2.2

/-- So does a block of them. -/
theorem latch_sendBlock (ram : Ram) (step : UInt32) (count : Nat) (address : UInt32) (gpu : Gpu) :
    (sendBlock ram step count address gpu).latch = gpu.latch := by
  rw [sendBlock]
  induction count generalizing address gpu with
  | zero => rfl
  | succ count ih => rw [foldBlock, ih, latch_gp0]

/-- So do the words of a node. -/
theorem latch_foldNode (ram : Ram) (count : Nat) (address : UInt32) (gpu : Gpu) :
    (foldNode gp0 ram count address gpu).latch = gpu.latch := by
  induction count generalizing address gpu with
  | zero => rfl
  | succ count ih => rw [foldNode, ih, latch_gp0]

/-- So do those of a list, also if it does not end. -/
theorem latch_foldList (ram : Ram) (limit : Nat) (address : UInt32) (gpu : Gpu) :
    (foldList gp0 ram limit address gpu).1.latch = gpu.latch := by
  induction limit generalizing address gpu with
  | zero => rfl
  | succ limit ih =>
    rw [foldList]
    split
    · exact latch_foldNode ram _ address gpu
    · exact (ih _ _).trans (latch_foldNode ram _ address gpu)

end Gpu

end Playstation
