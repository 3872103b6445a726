import Mathlib.Logic.Function.Iterate
import Playstation.Proofs.Gpu.Operation
import Playstation.Proofs.Gpu.Place

/-!
# Images to video memory and back

An image is sent to video memory, and fetched from it, two pixels in a word.
Each word that is sent replaces two pixels of the rectangle and each read takes
two, also if the rectangle wraps around the edges of video memory or covers it.
The main statement is that an image which has been sent is fetched unchanged,
and that sending back what has been fetched changes no pixel.
-/

namespace Playstation

section Halves

variable (word : UInt32) (low high : UInt16)

/-- Bit by bit, the lower half of a word. -/
theorem getLsbD_lowerHalf {i : Nat} :
    word.toUInt16.toUInt32.toBitVec.getLsbD i = (word.toBitVec.getLsbD i && decide (i < 16)) := by
  rw [UInt16.toBitVec_toUInt32, UInt32.toBitVec_toUInt16, BitVec.getLsbD_setWidth,
    BitVec.getLsbD_setWidth]
  by_cases h : i < 16
  · simp [h, show i < 32 by omega]
  · simp [h]

/-- Bit by bit, a half moved up. -/
theorem getLsbD_movedUp {i : Nat} :
    (high.toUInt32 <<< 16).toBitVec.getLsbD i =
      (decide (16 ≤ i) && high.toBitVec.getLsbD (i - 16)) := by
  have hamount : (UInt32.toBitVec 16 % 32).toNat = 16 := rfl
  rw [UInt32.toBitVec_shiftLeft, BitVec.shiftLeft_eq', hamount, UInt16.toBitVec_toUInt32,
    BitVec.getLsbD_shiftLeft, BitVec.getLsbD_setWidth]
  by_cases h : 16 ≤ i
  · by_cases hi : i < 32
    · simp [h, hi, show ¬i < 16 by omega, show i - 16 < 32 by omega]
    · have hnone : high.toBitVec.getLsbD (i - 16) = false := BitVec.getLsbD_of_ge _ _ (by omega)
      simp [hi, hnone]
  · simp [h, show i < 16 by omega]

/-- The halves of a word make up the word. -/
theorem word_of_halves :
    word.toUInt16.toUInt32 ||| (word >>> 16).toUInt16.toUInt32 <<< 16 = word := by
  have hamount : (UInt32.toBitVec 16 % 32).toNat = 16 := rfl
  apply UInt32.toBitVec_inj.mp
  apply BitVec.eq_of_getLsbD_eq
  intro i hi
  rw [UInt32.toBitVec_or, BitVec.getLsbD_or, getLsbD_lowerHalf, getLsbD_movedUp,
    UInt32.toBitVec_toUInt16, UInt32.toBitVec_shiftRight, BitVec.ushiftRight_eq', hamount,
    BitVec.getLsbD_setWidth, BitVec.getLsbD_ushiftRight]
  by_cases h : i < 16
  · simp [h, show ¬16 ≤ i by omega]
  · simp [h, show 16 ≤ i by omega, show i - 16 < 16 by omega, show 16 + (i - 16) = i by omega]

/-- The lower half of a word is what is left when the upper one is cleared. -/
theorem lowerHalf_eq : word.toUInt16.toUInt32 = word &&& 0xffff := by
  have hmask : (0xffff : UInt32) = lowMask 16 := by decide
  apply UInt32.toBitVec_inj.mp
  apply BitVec.eq_of_getLsbD_eq
  intro i hi
  have hbit : (MachineWord.toBits (word &&& 0xffff)).getLsbD i = _ := getLsbD_and word 0xffff i
  rw [hmask, getLsbD_lowMask (by decide) (by decide)] at hbit
  rw [getLsbD_lowerHalf]
  exact hbit.symm

/-- The lower half of a word made up of two. -/
theorem lowerHalf_of_halves : (low.toUInt32 ||| high.toUInt32 <<< 16).toUInt16 = low := by
  apply UInt16.toBitVec_inj.mp
  apply BitVec.eq_of_getLsbD_eq
  intro i hi
  rw [UInt32.toBitVec_toUInt16, BitVec.getLsbD_setWidth, UInt32.toBitVec_or, BitVec.getLsbD_or,
    getLsbD_movedUp, UInt16.toBitVec_toUInt32, BitVec.getLsbD_setWidth]
  simp [hi, show i < 32 by omega, show ¬16 ≤ i by omega]

/-- The upper half of a word made up of two. -/
theorem upperHalf_of_halves : ((low.toUInt32 ||| high.toUInt32 <<< 16) >>> 16).toUInt16 = high := by
  have hamount : (UInt32.toBitVec 16 % 32).toNat = 16 := rfl
  apply UInt16.toBitVec_inj.mp
  apply BitVec.eq_of_getLsbD_eq
  intro i hi
  have hnone : low.toBitVec.getLsbD (16 + i) = false := BitVec.getLsbD_of_ge _ _ (by omega)
  rw [UInt32.toBitVec_toUInt16, BitVec.getLsbD_setWidth, UInt32.toBitVec_shiftRight,
    BitVec.ushiftRight_eq', hamount, BitVec.getLsbD_ushiftRight, UInt32.toBitVec_or,
    BitVec.getLsbD_or, getLsbD_movedUp, UInt16.toBitVec_toUInt32, BitVec.getLsbD_setWidth, hnone]
  simp [hi, show 16 + i - 16 = i by omega]

end Halves

/-- Number of words which hold the pixels of an image. -/
def Rect.wordCount (rect : Rect) : Nat := (rect.area + 1) / 2

namespace Gpu

/-- What is left of word number `i` of an image: the upper half of a word which
holds the last pixel in its lower half is lost. -/
def keptWord (image : Rect) (i : Nat) (word : UInt32) : UInt32 :=
  if 2 * i + 1 = image.area then word &&& 0xffff else word

section Words

variable {image : Rect} {j k : Nat} (vram : Vram) (word : UInt32)

/-- The pixels of an image after a word of it has been kept. -/
theorem getIn_storePixels (h : image.Bounded) (hj : j < image.area) :
    (storePixels image k word vram).getIn image j =
      if k = j then word.toUInt16
      else if k + 1 = j then (word >>> 16).toUInt16
      else vram.getIn image j := by
  rw [storePixels]
  by_cases hk : k < image.area
  · by_cases hk' : k + 1 < image.area
    · simp only [hk, hk', if_true, Vram.getIn_setIn _ h hj hk', Vram.getIn_setIn _ h hj hk]
      by_cases hkj : k = j
      · simp [hkj]
      · simp [hkj]
    · simp only [hk, hk', if_true, if_false, Vram.getIn_setIn _ h hj hk]
      rw [if_neg (by omega : ¬k + 1 = j)]
  · have hk' : ¬k + 1 < image.area := by omega
    rw [if_neg hk, if_neg hk', if_neg (by omega), if_neg (by omega)]

/-- A word that has been kept is taken back. -/
theorem imageWord_storePixels (h : image.Bounded) (hk : 2 * k < image.area) :
    imageWord (storePixels image (2 * k) word vram) image (2 * k) = keptWord image k word := by
  rw [imageWord, keptWord, if_pos hk, getIn_storePixels _ _ h hk, if_pos rfl]
  by_cases hodd : 2 * k + 1 = image.area
  · rw [if_neg (by omega), if_pos hodd, lowerHalf_eq]
  · have hk' : 2 * k + 1 < image.area := by omega
    rw [if_pos hk', if_neg hodd, getIn_storePixels _ _ h hk', if_neg (by omega), if_pos rfl,
      word_of_halves]

/-- A word which is kept leaves the pixels before and behind it. -/
theorem imageWord_storePixels_of_disjoint (h : image.Bounded) (hjk : j + 2 ≤ k ∨ k + 2 ≤ j) :
    imageWord (storePixels image k word vram) image j = imageWord vram image j := by
  have hpixel {n : Nat} (hn : n < image.area) (hnk : n = j ∨ n = j + 1) :
      (storePixels image k word vram).getIn image n = vram.getIn image n := by
    rw [getIn_storePixels _ _ h hn, if_neg (by omega), if_neg (by omega)]
  rw [imageWord, imageWord]
  by_cases hj : j < image.area
  · by_cases hj' : j + 1 < image.area
    · simp only [hj, hj', if_true, hpixel hj (.inl rfl), hpixel hj' (.inr rfl)]
    · simp only [hj, hj', if_true, if_false, hpixel hj (.inl rfl)]
  · have hj' : ¬j + 1 < image.area := by omega
    rw [if_neg hj', if_neg hj', if_neg hj, if_neg hj]

/-- Keeping a word just taken changes nothing. -/
theorem storePixels_imageWord : storePixels image k (imageWord vram image k) vram = vram := by
  rw [storePixels, imageWord]
  by_cases hk : k < image.area
  · by_cases hk' : k + 1 < image.area
    · simp only [hk, hk', if_true, lowerHalf_of_halves, upperHalf_of_halves, Vram.setIn_getIn]
    · simp only [hk, hk', if_true, if_false, UInt16.toUInt16_toUInt32, Vram.setIn_getIn]
  · have hk' : ¬k + 1 < image.area := by omega
    rw [if_neg hk, if_neg hk']

end Words

/-- Keep the words of an image from pixel number `k` on. -/
def storeWords (image : Rect) (k : Nat) : List UInt32 → Vram → Vram
  | [], vram => vram
  | word :: words, vram => storeWords image (k + 2) words (storePixels image k word vram)

/-- The next `count` words of an image from pixel number `k` on. -/
def imageWords (vram : Vram) (image : Rect) (k : Nat) : Nat → List UInt32
  | 0 => []
  | count + 1 => imageWord vram image k :: imageWords vram image (k + 2) count

/-- The words which the next `count` reads return. -/
def reads (gpu : Gpu) : Nat → List UInt32
  | 0 => []
  | count + 1 => gpu.read.latch :: gpu.read.reads count

section Runs

variable {image : Rect} {j k : Nat}

/-- The words of an image leave the pixels before them. -/
theorem imageWord_storeWords_of_before (h : image.Bounded) (hjk : j + 2 ≤ k) (words : List UInt32)
    (vram : Vram) :
    imageWord (storeWords image k words vram) image j = imageWord vram image j := by
  induction words generalizing k vram with
  | nil => rfl
  | cons word words ih =>
    rw [storeWords, ih (by omega), imageWord_storePixels_of_disjoint vram word h (.inl hjk)]

/-- The words of an image that have been kept are taken back. -/
theorem imageWords_storeWords (h : image.Bounded) (words : List UInt32)
    (hfits : 2 * (k + words.length) ≤ image.area + 1) (vram : Vram) :
    imageWords (storeWords image (2 * k) words vram) image (2 * k) words.length =
      words.mapIdx fun i word => keptWord image (k + i) word := by
  induction words generalizing k vram with
  | nil => rfl
  | cons word words ih =>
    rw [List.length_cons] at hfits ⊢
    have hnext : 2 * k + 2 = 2 * (k + 1) := rfl
    have hshift : (fun i word => keptWord image (k + (i + 1)) word) =
        fun i word => keptWord image (k + 1 + i) word := by
      funext i word
      rw [Nat.add_comm i 1, ← Nat.add_assoc]
    rw [imageWords, storeWords, imageWord_storeWords_of_before h (Nat.le_refl _),
      imageWord_storePixels vram word h (by omega), hnext, ih (by omega), List.mapIdx_cons, hshift]
    rfl

/-- Keeping the words that are there already changes nothing. -/
theorem storeWords_imageWords (count : Nat) (vram : Vram) :
    storeWords image k (imageWords vram image k count) vram = vram := by
  induction count generalizing k with
  | zero => rfl
  | succ count ih => rw [imageWords, storeWords, storePixels_imageWord, ih]

variable {gpu : Gpu}

/-- Reads return a word each. -/
theorem length_reads (gpu : Gpu) (count : Nat) : (gpu.reads count).length = count := by
  induction count generalizing gpu with
  | zero => rfl
  | succ count ih => rw [reads, List.length_cons, ih]

/-- The drawing port waits when nothing is in progress. -/
theorem isIdle_of_done (h : gpu.phase = .idle) : gpu.isIdle = true := by
  rw [isIdle, h]

/-- A read with nothing in progress changes nothing. -/
theorem read_of_done (h : gpu.phase = .idle) : gpu.read = gpu := by
  rw [read, h]

/-- As many words as an image still has are all kept, and the port waits for a
command then. -/
theorem foldl_gp0_storing (words : List UInt32) (hphase : gpu.phase = .storing image k)
    (hk : k < image.area) (hcount : words.length = (image.area - k + 1) / 2) :
    words.foldl gp0 gpu =
      { gpu with phase := .idle, vram := storeWords image k words gpu.vram } := by
  induction words generalizing gpu k with
  | nil =>
    rw [List.length_nil] at hcount
    omega
  | cons word words ih =>
    have hgp0 : gpu.gp0 word = { gpu with
        vram := storePixels image k word gpu.vram
        phase := if k + 2 < image.area then .storing image (k + 2) else .idle } := by
      rw [gp0, hphase]
    rw [List.length_cons] at hcount
    rw [List.foldl_cons, hgp0, storeWords]
    by_cases hleft : k + 2 < image.area
    · rw [ih (if_pos hleft) hleft (by omega)]
    · have hnone : words = [] := List.length_eq_zero_iff.mp (by omega)
      subst hnone
      rw [if_neg hleft]
      rfl

/-- As many reads as an image still has words return these words, and leave the
last one in the latch. -/
theorem reads_loading (count : Nat) (hphase : gpu.phase = .loading image k) (hk : k < image.area)
    (hcount : count = (image.area - k + 1) / 2) :
    gpu.reads count = imageWords gpu.vram image k count ∧
      ∃ latch, (gpu.reads count).getLast? = some latch ∧
        read^[count] gpu = { gpu with phase := .idle, latch } := by
  induction count generalizing gpu k with
  | zero => omega
  | succ count ih =>
    have hread : gpu.read = { gpu with
        latch := imageWord gpu.vram image k
        phase := if k + 2 < image.area then .loading image (k + 2) else .idle } := by
      rw [read, hphase]
    rw [reads, imageWords, Function.iterate_succ_apply]
    by_cases hleft : k + 2 < image.area
    · have hnext : gpu.read.phase = .loading image (k + 2) := by
        rw [hread]
        exact if_pos hleft
      obtain ⟨hreads, latch, hlast, hdone⟩ := ih hnext hleft (by omega)
      rw [hread] at hreads hlast hdone ⊢
      refine ⟨congrArg _ hreads, latch, ?_, hdone⟩
      rw [List.getLast?_cons, hlast]
      rfl
    · obtain rfl : count = 0 := by omega
      rw [hread, if_neg hleft]
      exact ⟨rfl, _, rfl, rfl⟩

end Runs

/-- The word starts an image to video memory. -/
def IsStoreWord (word : UInt32) : Prop := 0xa0 ≤ topByte word ∧ topByte word < 0xc0

/-- The word starts an image from video memory. -/
def IsLoadWord (word : UInt32) : Prop := 0xc0 ≤ topByte word ∧ topByte word < 0xe0

section Commands

variable {gpu : Gpu} {word : UInt32}

/-- An image to video memory is announced by three words. -/
theorem IsStoreWord.collects (h : IsStoreWord word) :
    Gp0Start.ofWord word = .collect .cpuToVram 3 :=
  Gp0Start.ofWord_eq_collect_iff.mpr ⟨h.1, h.2, rfl⟩

/-- An image from video memory is announced by three words. -/
theorem IsLoadWord.collects (h : IsLoadWord word) :
    Gp0Start.ofWord word = .collect .vramToCpu 3 :=
  Gp0Start.ofWord_eq_collect_iff.mpr ⟨h.1, h.2, rfl⟩

/-- The command of an image to video memory makes the port wait for pixels. -/
theorem foldl_gp0_store (hidle : gpu.isIdle = true) (hword : IsStoreWord word)
    (position size : UInt32) :
    [word, position, size].foldl gp0 gpu =
      { gpu with phase := .storing (Rect.ofImageWords position size) 0 } := by
  have hcommand : Gp0Start.ofWord word = .collect .cpuToVram ([position, size].length + 1) :=
    hword.collects
  exact foldl_gp0_command hidle hcommand

/-- The command of an image from video memory feeds the read port. -/
theorem foldl_gp0_load (hidle : gpu.isIdle = true) (hword : IsLoadWord word)
    (position size : UInt32) :
    [word, position, size].foldl gp0 gpu =
      { gpu with phase := .loading (Rect.ofImageWords position size) 0 } := by
  have hcommand : Gp0Start.ofWord word = .collect .vramToCpu ([position, size].length + 1) :=
    hword.collects
  exact foldl_gp0_command hidle hcommand

/-- An image that is sent in full is kept. -/
theorem foldl_gp0_image (hidle : gpu.isIdle = true) (hword : IsStoreWord word)
    {position size : UInt32} {image : Rect} (himage : Rect.ofImageWords position size = image)
    {data : List UInt32} (hdata : data.length = image.wordCount) :
    (word :: position :: size :: data).foldl gp0 gpu =
      { gpu with phase := .idle, vram := storeWords image 0 data gpu.vram } := by
  subst himage
  have harea := (Rect.bounded_ofImageWords position size).area_pos
  have hsplit : word :: position :: size :: data = [word, position, size] ++ data := rfl
  rw [hsplit, List.foldl_append, foldl_gp0_store hidle hword]
  exact foldl_gp0_storing data rfl harea hdata

/-- The words of an image that is sent in full are in video memory, but for the upper half
of the last one if that holds no pixel. -/
theorem imageWords_sent (hidle : gpu.isIdle = true) (hword : IsStoreWord word)
    {position size : UInt32} {image : Rect} (himage : Rect.ofImageWords position size = image)
    {data : List UInt32} (hdata : data.length = image.wordCount) :
    imageWords ((word :: position :: size :: data).foldl gp0 gpu).vram image 0 image.wordCount =
      data.mapIdx (keptWord image) := by
  have hbounded : image.Bounded := himage ▸ Rect.bounded_ofImageWords position size
  have hfits : 2 * (0 + data.length) ≤ image.area + 1 := by
    rw [hdata, Rect.wordCount]
    omega
  have hkept := imageWords_storeWords hbounded data hfits gpu.vram
  simp only [Nat.zero_add] at hkept
  rw [foldl_gp0_image hidle hword himage hdata, ← hdata]
  exact hkept

/-- An image that is fetched in full is returned by the reads, the last of which
stays in the latch. -/
theorem reads_image (hidle : gpu.isIdle = true) (hword : IsLoadWord word)
    {position size : UInt32} {image : Rect} (himage : Rect.ofImageWords position size = image) :
    let loading := [word, position, size].foldl gp0 gpu
    loading.reads image.wordCount = imageWords gpu.vram image 0 image.wordCount ∧
      ∃ latch, (loading.reads image.wordCount).getLast? = some latch ∧
        read^[image.wordCount] loading = { gpu with phase := .idle, latch } := by
  subst himage
  have harea := (Rect.bounded_ofImageWords position size).area_pos
  rw [foldl_gp0_load hidle hword]
  exact reads_loading _ rfl harea rfl

end Commands

/-- Sending an image and fetching it undo each other, for every position and
size and from every state in which the drawing port waits. The number of words is
half of the number of pixels, rounded up. What is fetched after an image has been
sent are the words that were sent, but for the upper half of the last one if that
holds no pixel. When what has been fetched is sent to where it came from, video
memory stays as it was. In both cases the drawing port is idle in the end and a
further read repeats the last word. -/
theorem image_roundTrip {gpu : Gpu} (hidle : gpu.isIdle = true) {store load : UInt32}
    (hstore : IsStoreWord store) (hload : IsLoadWord load) (position size : UInt32) :
    let width := (((size &&& 0xffff) - 1) &&& 0x3ff).toNat + 1
    let height := (((size >>> 16) - 1) &&& 0x1ff).toNat + 1
    let count := (width * height + 1) / 2
    (∀ data : List UInt32, data.length = count →
      let sent := (store :: position :: size :: data).foldl gp0 gpu
      let loading := [load, position, size].foldl gp0 sent
      let fetched := read^[count] loading
      loading.reads count =
          data.mapIdx (fun i word => if 2 * i + 1 = width * height then word &&& 0xffff else word) ∧
        fetched.phase = .idle ∧
        some fetched.read.latch = (loading.reads count).getLast?) ∧
    let loading := [load, position, size].foldl gp0 gpu
    let words := loading.reads count
    let fetched := read^[count] loading
    let sent := (store :: position :: size :: words).foldl gp0 fetched
    sent.vram = gpu.vram ∧ sent.phase = .idle ∧ some sent.read.latch = words.getLast? := by
  intro width height count
  let image : Rect :=
    ⟨(position &&& 0x3ff).toNat, ((position >>> 16) &&& 0x1ff).toNat, width, height⟩
  have himage : Rect.ofImageWords position size = image := Rect.ofImageWords_eq position size
  constructor
  · intro data hdata sent loading fetched
    have hsent : sent = { gpu with
        phase := .idle, vram := storeWords image 0 data gpu.vram } :=
      foldl_gp0_image hidle hstore himage hdata
    have hwaits : sent.isIdle = true := isIdle_of_done (congrArg phase hsent)
    obtain ⟨hreads, latch, hlast, hfetched⟩ := reads_image hwaits hload himage
    have hdone : fetched.phase = .idle := congrArg phase hfetched
    refine ⟨hreads.trans (imageWords_sent hidle hstore himage hdata), hdone, ?_⟩
    rw [read_of_done hdone]
    exact (congrArg (some ·.latch) hfetched).trans hlast.symm
  · intro loading words fetched sent
    obtain ⟨hreads, latch, hlast, hfetched⟩ := reads_image hidle hload himage
    have hwaits : fetched.isIdle = true := isIdle_of_done (congrArg phase hfetched)
    have hsent : sent = { fetched with
        phase := .idle, vram := storeWords image 0 words fetched.vram } :=
      foldl_gp0_image hwaits hstore himage (length_reads loading count)
    have hvram : fetched.vram = gpu.vram := by
      rw [show fetched = _ from hfetched]
    have hdone : sent.phase = .idle := congrArg phase hsent
    refine ⟨?_, hdone, ?_⟩
    · have hwords : words = imageWords gpu.vram image 0 count := hreads
      rw [hsent, hwords, hvram]
      exact storeWords_imageWords count gpu.vram
    · rw [read_of_done hdone, hsent]
      exact (congrArg (some ·.latch) hfetched).trans hlast.symm

/-- An image of three pixels in a row which wraps around at the right edge of
the bottom row. The upper half of its second word is lost. -/
theorem image_roundTrip_threePixels :
    powerOn.isIdle = true ∧ IsStoreWord 0xa0000000 ∧ IsLoadWord 0xc0000000 ∧
    ([0xc0000000, 0x01ff03ff, 0x00010003].foldl gp0
      ([0xa0000000, 0x01ff03ff, 0x00010003, 0x22221111, 0x44443333].foldl gp0
        powerOn)).reads 2 = [0x22221111, 0x00003333] ∧
    let loading := [0xc0000000, 0x01ff03ff, 0x00010003].foldl gp0 powerOn
    ((0xa0000000 :: 0x01ff03ff :: 0x00010003 :: loading.reads 2).foldl gp0
      (read^[2] loading)).vram = powerOn.vram := by
  have hidle : powerOn.isIdle = true := rfl
  have hstore : IsStoreWord 0xa0000000 := ⟨by decide, by decide⟩
  have hload : IsLoadWord 0xc0000000 := ⟨by decide, by decide⟩
  obtain ⟨hsent, hrestored, -⟩ := image_roundTrip hidle hstore hload 0x01ff03ff 0x00010003
  exact ⟨hidle, hstore, hload, (hsent [0x22221111, 0x44443333] rfl).1, hrestored⟩

end Gpu

end Playstation
