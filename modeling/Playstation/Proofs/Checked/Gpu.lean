import Playstation.Gpu.Processor
import Playstation.Proofs.Checked.Cursor

/-!
# The graphics processor, checked

Commands, parameters and pixels at the drawing port, commands at the control
port, and the two read registers, with every bit position, sum, buffer index
and pixel index checked. The command buffer has room for twelve words, the
lengths of commands are computed in bytes, and a transfer in progress has a
bounded rectangle with pixels left. These facts hold of every phase that the
drawing port can get into.
-/

namespace Playstation

/-- Number of words in the command buffer. -/
def commandBufferSize : Nat := 12

/-- What holds of the phase of the drawing port at all times. -/
def Gp0Phase.Valid : Gp0Phase → Prop
  | collecting _ words remaining =>
    0 < words.size ∧ 0 < remaining ∧ words.size + remaining ≤ commandBufferSize
  | storing image done | loading image done => image.Bounded ∧ done < image.area
  | idle | polyLine => True

/-- The difference of two bytes, if it is not negative. -/
def checkedDifference (x y : Nat) : Option Nat := if y ≤ x then some (x - y) else none

/-- Words of a polygon command. -/
def checkedPolygonLength (opcode : UInt32) : Option Nat := do
  let isQuad ← checkedBit opcode 3
  let vertices := if isQuad then 4 else 3
  let isTextured ← checkedBit opcode 2
  let perVertex ← checkedByte (1 + isTextured.toNat)
  let isShaded ← checkedBit opcode 4
  let colours ← if isShaded then checkedDifference vertices 1 else some 0
  let words ← checkedByte (vertices * perVertex)
  let words ← checkedByte (1 + words)
  checkedByte (words + colours)

/-- Words of a line command. -/
def checkedLineLength (opcode : UInt32) : Option Nat := do
  let isShaded ← checkedBit opcode 4
  checkedByte (3 + isShaded.toNat)

/-- Words of a rectangle command. -/
def checkedRectLength (opcode : UInt32) : Option Nat := do
  let isTextured ← checkedBit opcode 2
  let words ← checkedByte (2 + isTextured.toNat)
  let size ← checkedBits opcode 3 4
  checkedByte (words + (size == 0).toNat)

/-- What a word asks for when it starts a command. -/
def Gp0Start.checkedOfWord (word : UInt32) : Option Gp0Start := do
  let opcode ← checkedBits word 24 31
  if opcode < 0x20 then
    match opcode.toNat with
    | 0x00 => return .nop
    | 0x01 => return .clearCache
    | 0x02 => return .collect .fillRect 3
    | 0x1f => return .requestInterrupt
    | _ => return .unknown
  else if opcode < 0x40 then return .collect .polygon (← checkedPolygonLength opcode)
  else if opcode < 0x60 then
    if ← checkedBit opcode 3 then return .polyLine
    else return .collect .line (← checkedLineLength opcode)
  else if opcode < 0x80 then return .collect .rect (← checkedRectLength opcode)
  else if opcode < 0xa0 then return .collect .vramToVram 4
  else if opcode < 0xc0 then return .collect .cpuToVram 3
  else if opcode < 0xe0 then return .collect .vramToCpu 3
  else
    match opcode.toNat with
    | 0xe1 => return .drawMode
    | 0xe2 => return .textureWindow
    | 0xe3 => return .areaTopLeft
    | 0xe4 => return .areaBottomRight
    | 0xe5 => return .drawOffset
    | 0xe6 => return .maskBits
    | _ => return .unknown

namespace Gpu

/-- A word of the command buffer, of which those that have arrived are looked
at. -/
def checkedParameter (words : Array UInt32) (k : Nat) : Option UInt32 :=
  if words.size ≤ commandBufferSize then some (words.getD k 0) else none

/-- Put a word into the command buffer. A full buffer stays as it is. -/
def pushParameter (words : Array UInt32) (word : UInt32) : Array UInt32 :=
  if words.size < commandBufferSize then words.push word else words

/-- Keep one pixel of an image, unless the image is done. -/
def checkedStorePixel (pixel : UInt16) (vram : Vram) (cursor : Cursor) :
    Option (Vram × Cursor) :=
  if cursor.isDone then some (vram, cursor)
  else do
    let vram ← vram.checkedPut cursor.x cursor.y pixel
    let cursor ← cursor.checkedNext
    return (vram, cursor)

/-- Take one pixel of an image into a half of a word, unless the image is
done. -/
def checkedTakePixel (vram : Vram) (half : Nat) (value : UInt32) (cursor : Cursor) :
    Option (UInt32 × Cursor) :=
  if cursor.isDone then some (value, cursor)
  else do
    let pixel ← vram.checkedGet cursor.x cursor.y
    let part ← checkedShiftUp pixel.toUInt32 (16 * half)
    let cursor ← cursor.checkedNext
    return (value ||| part, cursor)

/-- Read the read port. -/
def checkedRead (gpu : Gpu) : Option Gpu :=
  match gpu.phase with
  | .loading image done => do
    let (latch, cursor) ← checkedTakePixel gpu.vram 0 0 (.ofPixel image done)
    let (latch, cursor) ← checkedTakePixel gpu.vram 1 latch cursor
    return { gpu with
      latch
      phase := if cursor.isDone then .idle else .loading image (done + 2) }
  | _ => some gpu

/-- Run a command all of whose words have arrived. -/
def checkedExecute (gpu : Gpu) (command : Gp0Command) (words : Array UInt32) : Option Gpu :=
  match command with
  | .fillRect => do
    let colour ← checkedParameter words 0
    let pixel ← checkedPixelOfColour colour
    let position ← checkedParameter words 1
    let size ← checkedParameter words 2
    let vram ← gpu.vram.checkedFill position size pixel
    return { gpu with phase := .idle, vram }
  | .polygon | .line | .rect => do
    let _ ← checkedParameter words 0
    return { gpu with phase := .idle }
  | .vramToVram => do
    let size ← checkedParameter words 3
    let position ← checkedParameter words 1
    let source ← Cursor.checkedOfWords position size
    let position ← checkedParameter words 2
    let target ← Cursor.checkedOfWords position size
    let vram ← Vram.checkedCopy (vramSize + 1) source target gpu.vram
    return { gpu with phase := .idle, vram }
  | .cpuToVram => do
    let position ← checkedParameter words 1
    let size ← checkedParameter words 2
    let _ ← Cursor.checkedOfWords position size
    return { gpu with phase := .storing (Rect.ofImageWords position size) 0 }
  | .vramToCpu => do
    let position ← checkedParameter words 1
    let size ← checkedParameter words 2
    let _ ← Cursor.checkedOfWords position size
    return { gpu with phase := .loading (Rect.ofImageWords position size) 0 }

/-- Start a command, whose word is looked at in the command buffer. -/
def checkedStart (gpu : Gpu) (word : UInt32) : Option Gpu := do
  let start ← Gp0Start.checkedOfWord word
  let words := pushParameter #[] word
  let word ← checkedParameter words 0
  match start with
  | .nop | .clearCache | .unknown => return { gpu with phase := .idle }
  | .requestInterrupt => return { gpu with phase := .idle, interrupt := true }
  | .polyLine => return { gpu with phase := .polyLine }
  | .drawMode =>
    let mode ← checkedBits word 0 10
    let textureDisabled ← checkedBit word 11
    let flipX ← checkedBit word 12
    let flipY ← checkedBit word 13
    return { gpu with
      phase := .idle
      draw := { gpu.draw with mode, textureDisabled, flipX, flipY } }
  | .textureWindow =>
    let maskX ← checkedBits word 0 4
    let maskY ← checkedBits word 5 9
    let offsetX ← checkedBits word 10 14
    let offsetY ← checkedBits word 15 19
    return { gpu with
      phase := .idle, draw := { gpu.draw with window := ⟨maskX, maskY, offsetX, offsetY⟩ } }
  | .areaTopLeft =>
    let x ← checkedBits word 0 9
    let y ← checkedBits word 10 18
    return { gpu with phase := .idle, draw := { gpu.draw with topLeft := ⟨x, y⟩ } }
  | .areaBottomRight =>
    let x ← checkedBits word 0 9
    let y ← checkedBits word 10 18
    return { gpu with phase := .idle, draw := { gpu.draw with bottomRight := ⟨x, y⟩ } }
  | .drawOffset =>
    let x ← checkedBits word 0 10
    let y ← checkedBits word 11 21
    return { gpu with
      phase := .idle
      draw := { gpu.draw with
        offsetX := DrawSettings.signedField x, offsetY := DrawSettings.signedField y } }
  | .maskBits =>
    let mask ← checkedBits word 0 1
    return { gpu with phase := .idle, draw := { gpu.draw with mask } }
  | .collect command length =>
    let remaining ← checkedDifference length 1
    return { gpu with phase := .collecting command words remaining }

/-- Write a word to the drawing port. -/
def checkedGp0 (gpu : Gpu) (word : UInt32) : Option Gpu :=
  match gpu.phase with
  | .idle | .loading _ _ => gpu.checkedStart word
  | .collecting command words remaining =>
    if remaining > 1 then do
      let remaining ← checkedDifference remaining 1
      return { gpu with phase := .collecting command (pushParameter words word) remaining }
    else gpu.checkedExecute command (pushParameter words word)
  | .polyLine => if endsPolyLine word then some { gpu with phase := .idle } else some gpu
  | .storing image done => do
    let high ← checkedShiftDown word 16
    let (vram, cursor) ← checkedStorePixel word.toUInt16 gpu.vram (.ofPixel image done)
    let (vram, cursor) ← checkedStorePixel high.toUInt16 vram cursor
    return { gpu with
      vram
      phase := if cursor.isDone then .idle else .storing image (done + 2) }

/-- The status register as it reads. -/
def checkedStatus (gpu : Gpu) : Option UInt32 := do
  let value ← checkedSetBits 0x14002000 0 10 gpu.draw.mode
  let value ← checkedSetBits value 11 12 gpu.draw.mask
  let value ← checkedSetBit value 14 (← checkedBit gpu.display.mode 7)
  let value ← checkedSetBit value 15 gpu.draw.textureDisabled
  let value ← checkedSetBit value 16 (← checkedBit gpu.display.mode 6)
  let value ← checkedSetBits value 17 22 (← checkedBits gpu.display.mode 0 5)
  let value ← checkedSetBit value 23 gpu.display.disabled
  let value ← checkedSetBit value 24 gpu.interrupt
  let value ← checkedSetBits value 29 30 gpu.display.dmaDirection.number
  let value ← checkedSetBits value 26 28 7
  checkedSetBit value 25 (gpu.display.dmaDirection != .off)

/-- The answer to a question about the settings, if there is one. -/
def checkedInfo (gpu : Gpu) (question : UInt32) : Option (Option UInt32) :=
  match question.toNat with
  | 2 => do
    let maskY ← checkedShiftUp gpu.draw.window.maskY 5
    let offsetX ← checkedShiftUp gpu.draw.window.offsetX 10
    let offsetY ← checkedShiftUp gpu.draw.window.offsetY 15
    return some (gpu.draw.window.maskX ||| maskY ||| offsetX ||| offsetY)
  | 3 => do
    let y ← checkedShiftUp gpu.draw.topLeft.y 10
    return some (gpu.draw.topLeft.x ||| y)
  | 4 => do
    let y ← checkedShiftUp gpu.draw.bottomRight.y 10
    return some (gpu.draw.bottomRight.x ||| y)
  | 5 => do
    let y ← checkedShiftUp (DrawSettings.fieldOf gpu.draw.offsetY) 11
    return some (DrawSettings.fieldOf gpu.draw.offsetX ||| y)
  | 7 => some (some 2)
  | _ => some none

/-- Write a word to the control port. -/
def checkedGp1 (gpu : Gpu) (word : UInt32) : Option Gpu := do
  let opcode ← checkedBits word 24 31
  match opcode.toNat with
  | 0x00 => return gpu.reset
  | 0x01 => return { gpu with phase := .idle }
  | 0x02 => return { gpu with interrupt := false }
  | 0x03 =>
    let disabled ← checkedBit word 0
    return { gpu with display := { gpu.display with disabled } }
  | 0x04 =>
    let direction ← checkedBits word 0 1
    return { gpu with
      display := { gpu.display with dmaDirection := GpuDmaDirection.ofNumber direction } }
  | 0x05 =>
    let startX ← checkedBits word 0 9
    let startY ← checkedBits word 10 18
    return { gpu with display := { gpu.display with startX, startY } }
  | 0x06 =>
    let first ← checkedBits word 0 11
    let last ← checkedBits word 12 23
    return { gpu with display := { gpu.display with horizontal := (first, last) } }
  | 0x07 =>
    let first ← checkedBits word 0 9
    let last ← checkedBits word 10 19
    return { gpu with display := { gpu.display with vertical := (first, last) } }
  | 0x08 =>
    let mode ← checkedBits word 0 7
    return { gpu with display := { gpu.display with mode } }
  | opcode =>
    if 0x10 ≤ opcode ∧ opcode ≤ 0x1f then
      let question ← checkedBits word 0 3
      match ← gpu.checkedInfo question with
      | some answer => return { gpu with latch := answer }
      | none =>
        let _ ← checkedBits word 0 23
        return gpu
    else return gpu

end Gpu

/-- The length of a polygon command fits into a byte. -/
theorem checkedPolygonLength_eq (opcode : UInt32) :
    checkedPolygonLength opcode = some (polygonLength opcode) := by
  rw [checkedPolygonLength, polygonLength, checkedBit_eq _ (by decide), checkedBit_eq _ (by decide),
    checkedBit_eq _ (by decide)]
  simp only [Option.bind_eq_bind, Option.bind_some]
  cases bit opcode 3 <;> cases bit opcode 2 <;> cases bit opcode 4 <;> rfl

/-- The length of a line command fits into a byte. -/
theorem checkedLineLength_eq (opcode : UInt32) :
    checkedLineLength opcode = some (lineLength opcode) := by
  rw [checkedLineLength, lineLength, checkedBit_eq _ (by decide)]
  simp only [Option.bind_eq_bind, Option.bind_some]
  cases bit opcode 4 <;> rfl

/-- The length of a rectangle command fits into a byte. -/
theorem checkedRectLength_eq (opcode : UInt32) :
    checkedRectLength opcode = some (rectLength opcode) := by
  have hsize : (bits opcode 3 4 == 0) = decide (bits opcode 3 4 = 0) := rfl
  rw [checkedRectLength, rectLength, checkedBit_eq _ (by decide),
    checkedBits_eq _ (by decide) (by decide)]
  simp only [Option.bind_eq_bind, Option.bind_some, hsize]
  by_cases hzero : bits opcode 3 4 = 0 <;>
    simp only [hzero, if_true, if_false, decide_true, decide_false] <;>
      cases bit opcode 2 <;> rfl

/-- Every word starts something. -/
theorem Gp0Start.checkedOfWord_eq (word : UInt32) : checkedOfWord word = some (ofWord word) := by
  have hbit (opcode : UInt32) : checkedBit opcode 3 = some (bit opcode 3) := rfl
  rw [checkedOfWord, ofWord, topByte, checkedBits_eq _ (by decide) (by decide)]
  simp only [Option.bind_eq_bind, Option.bind_some, checkedPolygonLength_eq,
    checkedLineLength_eq, checkedRectLength_eq, hbit]
  generalize bits word 24 31 = opcode
  by_cases hfirst : opcode < 0x20
  · simp only [hfirst, if_true]
    generalize opcode.toNat = number
    split
    case h_5 => simp_all
    all_goals rfl
  · simp only [hfirst, if_false, apply_ite some]
    repeat' apply ite_congr rfl <;> intro _
    all_goals try rfl
    generalize opcode.toNat = number
    split
    case h_7 => simp_all
    all_goals rfl

/-- A command with parameters has two words at least, and no more than the
command buffer has room for. -/
theorem Gp0Start.length_bounds {word : UInt32} {command : Gp0Command} {length : Nat}
    (h : ofWord word = .collect command length) : 2 ≤ length ∧ length ≤ commandBufferSize := by
  have hpolygon (opcode : UInt32) : 4 ≤ polygonLength opcode ∧ polygonLength opcode ≤ 12 := by
    rw [polygonLength]
    cases bit opcode 3 <;> cases bit opcode 2 <;> cases bit opcode 4 <;> decide
  have hline (opcode : UInt32) : 3 ≤ lineLength opcode ∧ lineLength opcode ≤ 4 := by
    rw [lineLength]
    cases bit opcode 4 <;> decide
  have hrect (opcode : UInt32) : 2 ≤ rectLength opcode ∧ rectLength opcode ≤ 4 := by
    rw [rectLength]
    split <;> split <;> decide
  rw [ofWord] at h
  generalize topByte word = opcode at h
  have hpolygon := hpolygon opcode
  have hline := hline opcode
  have hrect := hrect opcode
  rw [commandBufferSize]
  repeat' split at h
  all_goals cases h <;> omega

namespace Gpu

/-- The words that have arrived can be looked at. -/
theorem checkedParameter_eq {words : Array UInt32} (h : words.size ≤ commandBufferSize) (k : Nat) :
    checkedParameter words k = some (words.getD k 0) := if_pos h

/-- There is room for another word. -/
theorem pushParameter_eq {words : Array UInt32} (h : words.size < commandBufferSize)
    (word : UInt32) : pushParameter words word = words.push word := if_pos h

section Image

variable {image : Rect} {k : Nat} (vram : Vram)

/-- A pixel is kept exactly if the image is not done. -/
theorem checkedStorePixel_eq (h : image.Bounded) (hk : k ≤ image.area) (pixel : UInt16) :
    checkedStorePixel pixel vram (.ofPixel image k) =
      some (if k < image.area then vram.setIn image k pixel else vram,
        .ofPixel image (min (k + 1) image.area)) := by
  rw [checkedStorePixel, Cursor.isDone_ofPixel h hk]
  by_cases hdone : image.area ≤ k
  · have hend : min (k + 1) image.area = k := by omega
    rw [if_pos (decide_eq_true hdone), if_neg (by omega), hend]
  · have hnext : min (k + 1) image.area = k + 1 := by omega
    rw [if_neg (by rw [decide_eq_true_eq]; exact hdone), if_pos (by omega),
      Vram.checkedPut_ofPixel vram h (by omega)]
    simp only [Option.bind_eq_bind, Option.bind_some]
    rw [Cursor.checkedNext_ofPixel h (by omega), hnext]
    rfl

/-- A pixel is taken exactly if the image is not done. -/
theorem checkedTakePixel_eq (h : image.Bounded) (hk : k ≤ image.area) {half : Nat}
    (hhalf : 16 * half < 32) (value : UInt32) :
    checkedTakePixel vram half value (.ofPixel image k) =
      some (if k < image.area then
          value ||| MachineWord.shiftUp (vram.getIn image k).toUInt32 (16 * half) else value,
        .ofPixel image (min (k + 1) image.area)) := by
  rw [checkedTakePixel, Cursor.isDone_ofPixel h hk]
  by_cases hdone : image.area ≤ k
  · have hend : min (k + 1) image.area = k := by omega
    rw [if_pos (decide_eq_true hdone), if_neg (by omega), hend]
  · have hnext : min (k + 1) image.area = k + 1 := by omega
    rw [if_neg (by rw [decide_eq_true_eq]; exact hdone), if_pos (by omega),
      Vram.checkedGet_ofPixel vram h (by omega)]
    simp only [Option.bind_eq_bind, Option.bind_some]
    rw [checkedShiftUp_eq _ hhalf]
    simp only [Option.bind_some]
    rw [Cursor.checkedNext_ofPixel h (by omega), hnext]
    rfl

/-- Once two more pixels have been moved, the phase ends if none are left. -/
theorem phase_next (h : image.Bounded) (phase : Gp0Phase) :
    (if (Cursor.ofPixel image (min (k + 2) image.area)).isDone then .idle else phase) =
      if k + 2 < image.area then phase else .idle := by
  rw [Cursor.isDone_ofPixel h (Nat.min_le_right _ _)]
  by_cases hleft : k + 2 < image.area
  · rw [if_pos hleft, if_neg (by rw [decide_eq_true_eq]; omega)]
  · rw [if_neg hleft, if_pos (decide_eq_true (by omega))]

end Image

variable {gpu : Gpu}

/-- The read port can be read in every phase. -/
theorem checkedRead_eq (h : gpu.phase.Valid) : gpu.checkedRead = some gpu.read := by
  rw [checkedRead, read]
  cases hphase : gpu.phase with
  | loading image done =>
    rw [hphase] at h
    obtain ⟨hbounded, hdone⟩ := h
    have hnext : min (done + 1) image.area = done + 1 := by omega
    have hzero (x : UInt32) : (0 : UInt32) ||| MachineWord.shiftUp x (16 * 0) = x := by
      change (0 : UInt32) ||| x <<< 0 = x
      rw [UInt32.zero_or, UInt32.shiftLeft_zero]
    simp only
    rw [checkedTakePixel_eq _ hbounded (Nat.le_of_lt hdone) (by decide)]
    simp only [Option.bind_eq_bind, Option.bind_some, hnext, hzero]
    rw [checkedTakePixel_eq _ hbounded hdone (by decide)]
    simp only [Option.bind_some, phase_next hbounded]
    rfl
  | _ => rfl

/-- Words of a command that has been received in full can be executed. -/
theorem checkedExecute_eq {words : Array UInt32} (h : words.size ≤ commandBufferSize)
    (command : Gp0Command) :
    gpu.checkedExecute command words = some (gpu.execute command words) := by
  cases command with
  | fillRect =>
    simp only [checkedExecute, checkedParameter_eq h, checkedPixelOfColour_eq, Vram.checkedFill_eq,
      Option.bind_eq_bind, Option.bind_some]
    rfl
  | polygon | line | rect =>
    simp only [checkedExecute, checkedParameter_eq h, Option.bind_eq_bind, Option.bind_some]
    rfl
  | vramToVram =>
    have hsource := Rect.bounded_ofImageWords (words.getD 1 0) (words.getD 3 0)
    have htarget := Rect.bounded_ofImageWords (words.getD 2 0) (words.getD 3 0)
    have hcopy := Vram.checkedCopy_eq hsource htarget rfl (vramSize + 1) _
      (Nat.lt_succ_of_le hsource.area_le) (Nat.zero_add _) gpu.vram
    simp only [checkedExecute, checkedParameter_eq h, Cursor.checkedOfWords_eq, hcopy,
      Option.bind_eq_bind, Option.bind_some]
    rfl
  | cpuToVram | vramToCpu =>
    simp only [checkedExecute, checkedParameter_eq h, Cursor.checkedOfWords_eq,
      Option.bind_eq_bind, Option.bind_some]
    rfl

/-- Every word can start a command. -/
theorem checkedStart_eq (word : UInt32) : gpu.checkedStart word = some (gpu.start word) := by
  have hword : checkedParameter (pushParameter #[] word) 0 = some word := rfl
  rw [checkedStart, Gp0Start.checkedOfWord_eq, start]
  simp only [hword, Option.bind_eq_bind, Option.bind_some]
  cases hstart : Gp0Start.ofWord word with
  | collect command length =>
    have hlength := (Gp0Start.length_bounds hstart).1
    have hremaining : checkedDifference length 1 = some (length - 1) := if_pos (by omega)
    simp only [hremaining, Option.bind_some]
    rfl
  | _ => rfl

/-- Every word can be written to the drawing port in every phase. -/
theorem checkedGp0_eq (h : gpu.phase.Valid) (word : UInt32) :
    gpu.checkedGp0 word = some (gpu.gp0 word) := by
  rw [checkedGp0, gp0]
  cases hphase : gpu.phase with
  | idle | loading => exact checkedStart_eq word
  | collecting command words remaining =>
    rw [hphase] at h
    obtain ⟨-, hremaining, hsize⟩ := h
    have hpush : pushParameter words word = words.push word := pushParameter_eq (by omega) word
    have hdifference : checkedDifference remaining 1 = some (remaining - 1) := if_pos (by omega)
    simp only [hpush, hdifference, Option.bind_eq_bind, Option.bind_some]
    split
    · rfl
    · exact checkedExecute_eq (by rw [Array.size_push]; omega) command
  | polyLine =>
    simp only
    split <;> rfl
  | storing image done =>
    rw [hphase] at h
    obtain ⟨hbounded, hdone⟩ := h
    have hnext : min (done + 1) image.area = done + 1 := by omega
    have hhigh : checkedShiftDown word 16 = some (word >>> 16) := rfl
    simp only [hhigh, Option.bind_eq_bind, Option.bind_some]
    rw [checkedStorePixel_eq _ hbounded (Nat.le_of_lt hdone)]
    simp only [Option.bind_some, hnext]
    rw [checkedStorePixel_eq _ hbounded hdone]
    simp only [Option.bind_some, phase_next hbounded]
    rfl

/-- The status can be read in every phase. -/
theorem checkedStatus_eq : gpu.checkedStatus = some gpu.status := rfl

/-- Every question can be asked. -/
theorem checkedInfo_eq (question : UInt32) :
    gpu.checkedInfo question = some (gpu.info? question) := by
  rw [checkedInfo, info?]
  generalize question.toNat = number
  split
  case h_6 => simp_all
  all_goals rfl

/-- Every word can be written to the control port. -/
theorem checkedGp1_eq (word : UInt32) : gpu.checkedGp1 word = some (gpu.gp1 word) := by
  rw [checkedGp1, gp1, topByte, checkedBits_eq _ (by decide) (by decide)]
  simp only [Option.bind_eq_bind, Option.bind_some, checkedInfo_eq]
  generalize (bits word 24 31).toNat = opcode
  split
  case h_10 =>
    by_cases hasks : 0x10 ≤ opcode ∧ opcode ≤ 0x1f
    · have hdetail : checkedBits word 0 23 = some (bits word 0 23) :=
        checkedBits_eq _ (by decide) (by decide)
      simp only [hasks, and_self, if_true, ask, hdetail]
      rw [checkedBits_eq _ (by decide) (by decide)]
      simp only [Option.bind_some]
      cases gpu.info? (bits word 0 3) <;> rfl
    · simp only [hasks, if_false]
      rfl
  all_goals rfl

/-- Starting a command leaves a valid phase. -/
theorem start_valid (word : UInt32) : (gpu.start word).phase.Valid := by
  rw [start]
  cases hstart : Gp0Start.ofWord word with
  | collect command length =>
    obtain ⟨hlow, hhigh⟩ := Gp0Start.length_bounds hstart
    have hsize : (#[word] : Array UInt32).size = 1 := rfl
    refine ⟨?_, ?_, ?_⟩ <;> omega
  | _ => trivial

/-- Executing a command leaves a valid phase. -/
theorem execute_valid (command : Gp0Command) (words : Array UInt32) :
    (gpu.execute command words).phase.Valid := by
  cases command with
  | cpuToVram | vramToCpu =>
    have hbounded := Rect.bounded_ofImageWords (words.getD 1 0) (words.getD 2 0)
    exact ⟨hbounded, hbounded.area_pos⟩
  | _ => trivial

/-- Writing a word to the drawing port leaves a valid phase. -/
theorem gp0_valid (h : gpu.phase.Valid) (word : UInt32) : (gpu.gp0 word).phase.Valid := by
  rw [gp0]
  cases hphase : gpu.phase with
  | idle | loading => exact start_valid word
  | collecting command words remaining =>
    rw [hphase] at h
    obtain ⟨-, -, hsize⟩ := h
    simp only
    split
    · have hpush : (words.push word).size = words.size + 1 := Array.size_push word
      refine ⟨?_, ?_, ?_⟩ <;> omega
    · exact execute_valid command _
  | polyLine =>
    simp only
    split
    · trivial
    · rw [hphase]
      trivial
  | storing image done =>
    rw [hphase] at h
    simp only
    split
    · next hleft => exact ⟨h.1, hleft⟩
    · trivial

/-- Reading the read port leaves a valid phase. -/
theorem read_valid (h : gpu.phase.Valid) : gpu.read.phase.Valid := by
  rw [read]
  cases hphase : gpu.phase with
  | loading image done =>
    rw [hphase] at h
    simp only
    split
    · next hleft => exact ⟨h.1, hleft⟩
    · trivial
  | _ => exact h

/-- Writing a word to the control port leaves a valid phase. -/
theorem gp1_valid (h : gpu.phase.Valid) (word : UInt32) : (gpu.gp1 word).phase.Valid := by
  rw [gp1]
  split
  case h_10 =>
    split
    · rw [ask]
      split <;> exact h
    · exact h
  all_goals first | exact h | trivial

end Gpu

end Playstation
