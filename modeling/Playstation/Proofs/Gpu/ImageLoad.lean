import Playstation.Proofs.Gpu.Image

/-!
# Images sent to video memory

The command of an image is followed by its pixels, two in a word, and the drawing
port waits for the next command only after the last of them. Each pixel is then at
its place in video memory and nothing else has changed. If the number of pixels is
odd, the upper half of the last word is none of them.
-/

namespace Playstation

namespace Gpu

/-- Pixel number `k` of the words of an image, the lower half of a word first. -/
def imagePixel (data : List UInt32) (k : Nat) : UInt16 :=
  if k % 2 = 0 then (data.getD (k / 2) 0).toUInt16 else (data.getD (k / 2) 0 >>> 16).toUInt16

variable {image : Rect} {before vram : Vram} {done : Nat}

/-- The two pixels of a word. -/
theorem imagePixel_of_drop {data words : List UInt32} {word : UInt32}
    (h : data.drop done = word :: words) :
    word.toUInt16 = imagePixel data (2 * done) ∧
      (word >>> 16).toUInt16 = imagePixel data (2 * done + 1) := by
  have hword : data.getD done 0 = word := by
    rw [List.getD_eq_getElem?_getD, ← List.head?_drop, h]
    rfl
  have heven : 2 * done / 2 = done := by omega
  have hodd : (2 * done + 1) / 2 = done := by omega
  rw [imagePixel, imagePixel, heven, hodd, if_pos (by omega), if_neg (by omega), hword]
  exact ⟨rfl, rfl⟩

/-- What is left of the words of an image has the same pixels. -/
theorem imagePixel_keptWord (data : List UInt32) {k : Nat} (hk : k < image.area) :
    imagePixel (data.mapIdx (keptWord image)) k = imagePixel data k := by
  have hword : (data.mapIdx (keptWord image)).getD (k / 2) 0 =
      keptWord image (k / 2) (data.getD (k / 2) 0) := by
    rw [List.getD_eq_getElem?_getD, List.getD_eq_getElem?_getD, List.getElem?_mapIdx]
    cases data[k / 2]? with
    | some word => rfl
    | none =>
      rw [keptWord]
      exact (ite_self 0).symm
  rw [imagePixel, imagePixel, hword, keptWord]
  by_cases hlast : 2 * (k / 2) + 1 = image.area
  · -- The last pixel is in the lower half, which is not cleared.
    rw [if_pos hlast, if_pos (by omega), if_pos (by omega), ← lowerHalf_eq,
      UInt16.toUInt16_toUInt32]
  · rw [if_neg hlast]

/-- A word of an image paints the pixels which it holds. -/
theorem paints_storePixels {pixels : Nat → UInt16} {word : UInt32} (himage : image.Bounded)
    (h : before.Paints vram image (min (2 * done) image.area) pixels)
    (hlow : word.toUInt16 = pixels (2 * done))
    (hhigh : (word >>> 16).toUInt16 = pixels (2 * done + 1)) :
    before.Paints (storePixels image (2 * done) word vram) image
      (min (2 * (done + 1)) image.area) pixels := by
  rw [storePixels]
  by_cases hfirst : 2 * done < image.area
  · rw [Nat.min_eq_left (by omega)] at h
    have hpaints := h.setIn himage hfirst hlow
    rw [if_pos hfirst]
    by_cases hsecond : 2 * done + 1 < image.area
    · rw [if_pos hsecond, Nat.min_eq_left (by omega)]
      exact hpaints.setIn himage hsecond hhigh
    · rw [if_neg hsecond, Nat.min_eq_right (by omega), show image.area = 2 * done + 1 by omega]
      exact hpaints
  · rw [Nat.min_eq_right (by omega)] at h ⊢
    rw [if_neg hfirst, if_neg (by omega)]
    exact h

/-- The rest of the words paint the rest of the pixels. -/
theorem paints_storeWords {data words : List UInt32} (himage : image.Bounded)
    (hwords : data.drop done = words)
    (h : before.Paints vram image (min (2 * done) image.area) (imagePixel data)) :
    before.Paints (storeWords image (2 * done) words vram) image
      (min (2 * (done + words.length)) image.area) (imagePixel data) := by
  induction words generalizing done vram with
  | nil => exact h
  | cons word words ih =>
    obtain ⟨hlow, hhigh⟩ := imagePixel_of_drop hwords
    have hrest : data.drop (done + 1) = words := by
      rw [← List.drop_drop, hwords, List.drop_one, List.tail_cons]
    have hcount : done + (word :: words).length = done + 1 + words.length := by
      rw [List.length_cons]
      omega
    rw [storeWords, hcount]
    exact ih hrest (paints_storePixels himage h hlow hhigh)

variable {gpu : Gpu}

/-- While pixels of an image are missing the drawing port takes words as pixels. -/
theorem phase_foldl_storing {k : Nat} {words : List UInt32} (hphase : gpu.phase = .storing image k)
    (hleft : k + 2 * words.length < image.area) :
    (words.foldl gp0 gpu).phase = .storing image (k + 2 * words.length) := by
  induction words generalizing gpu k with
  | nil => exact hphase
  | cons word words ih =>
    rw [List.length_cons] at hleft
    have hnext : (gpu.gp0 word).phase = .storing image (k + 2) := by
      rw [gp0, hphase]
      exact if_pos (by omega)
    rw [List.foldl_cons, ih hnext (by omega), List.length_cons,
      show k + 2 + 2 * words.length = k + 2 * (words.length + 1) by omega]

/-- Before the last word of an image the drawing port does not wait for a command. -/
theorem isIdle_foldl_image (hidle : gpu.isIdle = true) {word : UInt32} (hword : IsStoreWord word)
    {position size : UInt32} {image : Rect} (himage : Rect.ofImageWords position size = image)
    {data : List UInt32} (hdata : data.length = image.wordCount) {taken : Nat}
    (hpos : 0 < taken) (hlast : taken < (word :: position :: size :: data).length) :
    (((word :: position :: size :: data).take taken).foldl gp0 gpu).isIdle = false := by
  rw [List.length_cons, List.length_cons, List.length_cons, hdata, Rect.wordCount] at hlast
  rcases taken with _ | _ | _ | taken
  · omega
  · exact @isIdle_foldl_command gpu .cpuToVram word 3 [] hidle hword.collects (by decide)
  · exact @isIdle_foldl_command gpu .cpuToVram word 3 [position] hidle hword.collects
      (Nat.lt_succ_self 2)
  · have hsplit : (word :: position :: size :: data).take (taken + 1 + 1 + 1) =
        [word, position, size] ++ data.take taken := rfl
    have hlength : (data.take taken).length ≤ taken := List.length_take_le taken data
    have hstoring : ((data.take taken).foldl gp0 ([word, position, size].foldl gp0 gpu)).phase =
        .storing image (0 + 2 * (data.take taken).length) := by
      refine phase_foldl_storing ?_ (by omega)
      rw [foldl_gp0_store hidle hword, himage]
    rw [hsplit, List.foldl_append, isIdle, hstoring]

/-- What an image leaves of the graphics processor. -/
structure ImageSent (before after : Gpu) (image : Rect) (data : List UInt32) : Prop where
  /-- The drawing port waits for a command. -/
  idle : after.isIdle = true
  /-- The pixels are in video memory, and all else there is kept. -/
  paints : before.vram.Paints after.vram image image.area (imagePixel data)
  /-- No two of them are at one place. -/
  apart : ∀ j < image.area, ∀ k < image.area, j ≠ k → image.place j ≠ image.place k
  /-- Nothing changes but video memory and the phase of the drawing port. -/
  rest : after = { before with phase := .idle, vram := after.vram }
  /-- The status register is kept. -/
  status : after.status = before.status

/-- An image is sent by a command word, a position, a size and one word for every two
pixels of the rectangle which these say, whose sides are at least one and at most those
of video memory. From every state in which the drawing port waits for a command it does
so again after the last of these words, and not after one before. Each pixel is then at
its place, and nothing else has changed. Of an odd number of pixels the upper half of the
last word is lost: sending the words with that half cleared has the same outcome. -/
theorem image_sent (hidle : gpu.isIdle = true) {word : UInt32}
    (hword : 0xa0 ≤ topByte word ∧ topByte word < 0xc0) (position size : UInt32) :
    let image : Rect :=
      { left := (position &&& 0x3ff).toNat
        top := ((position >>> 16) &&& 0x1ff).toNat
        width := (((size &&& 0xffff) - 1) &&& 0x3ff).toNat + 1
        height := (((size >>> 16) - 1) &&& 0x1ff).toNat + 1 }
    ∀ data : List UInt32, data.length = (image.width * image.height + 1) / 2 →
      let words := word :: position :: size :: data
      (∀ taken, 0 < taken → taken < words.length →
        ((words.take taken).foldl gp0 gpu).isIdle = false) ∧
      gpu.ImageSent (words.foldl gp0 gpu) image data ∧
      (word :: position :: size :: data.mapIdx (keptWord image)).foldl gp0 gpu =
        words.foldl gp0 gpu := by
  intro image data hdata words
  have himage : Rect.ofImageWords position size = image := Rect.ofImageWords_eq position size
  have hbounded : image.Bounded := himage ▸ Rect.bounded_ofImageWords position size
  have hpaints {data : List UInt32} (hlength : data.length = image.wordCount) :
      gpu.vram.Paints (storeWords image 0 data gpu.vram) image image.area (imagePixel data) := by
    have hall := paints_storeWords hbounded (@List.drop_zero _ data) (.zero gpu.vram image _)
    rw [Nat.zero_add, hlength, Nat.min_eq_right (by rw [Rect.wordCount]; omega)] at hall
    exact hall
  have hsent {data : List UInt32} (hlength : data.length = image.wordCount) :
      (word :: position :: size :: data).foldl gp0 gpu =
        { gpu with phase := .idle, vram := storeWords image 0 data gpu.vram } :=
    foldl_gp0_image hidle hword himage hlength
  have hkept : (data.mapIdx (keptWord image)).length = image.wordCount :=
    List.length_mapIdx.trans hdata
  refine ⟨?_, ?_, ?_⟩
  · exact fun taken hpos hlast => isIdle_foldl_image hidle hword himage hdata hpos hlast
  · rw [hsent hdata]
    exact ⟨rfl, hpaints hdata, fun j hj k hk hne hsame => hne ((hbounded.place_inj hj hk).mp hsame),
      rfl, rfl⟩
  · have hsame := (hpaints hkept).unique (hpaints hdata) fun k hk => imagePixel_keptWord data hk
    rw [hsent hkept, hsent hdata, hsame]

/-- Three pixels in a row from the bottom right corner wrap around at the right edge. The
upper half of the second word is lost. -/
theorem image_sent_threePixels :
    powerOn.isIdle = true ∧ (0xa0 ≤ topByte 0xa0000000 ∧ topByte 0xa0000000 < 0xc0) ∧
    let sent := [0xa0000000, 0x01ff03ff, 0x00010003, 0x22221111, 0x44443333].foldl gp0 powerOn
    ([0xa0000000, 0x01ff03ff, 0x00010003, 0x22221111].foldl gp0 powerOn).isIdle = false ∧
    sent.isIdle = true ∧ sent.vram.pixelAt (1023, 511) = 0x1111 ∧
    sent.vram.pixelAt (0, 511) = 0x2222 ∧ sent.vram.pixelAt (1, 511) = 0x3333 ∧
    sent.vram.pixelAt (2, 511) = powerOn.vram.pixelAt (2, 511) := by
  have hidle : powerOn.isIdle = true := rfl
  have hword : 0xa0 ≤ topByte 0xa0000000 ∧ topByte 0xa0000000 < 0xc0 := by decide
  obtain ⟨hbusy, hsent, -⟩ := image_sent hidle hword 0x01ff03ff 0x00010003
    [0x22221111, 0x44443333] (by decide)
  refine ⟨hidle, hword, hbusy 4 (by decide) (by decide), hsent.idle, ?_, ?_, ?_, ?_⟩
  · exact hsent.paints.painted 0 (by decide)
  · exact hsent.paints.painted 1 (by decide)
  · exact hsent.paints.painted 2 (by decide)
  · exact hsent.paints.kept (2, 511) (by decide)

end Gpu

end Playstation
