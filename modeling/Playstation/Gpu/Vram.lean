/-!
# Video memory

Video memory is a torus of 1024 by 512 pixels: coordinates wrap around at
every edge. A rectangle is numbered row by row, and its `k`-th pixel is found
directly from `k`, so that filling, copying and streaming a rectangle are all
loops over pixel numbers.
-/

namespace Playstation

/-- Number of pixels in video memory. -/
abbrev vramSize : Nat := 524288

/-- Video memory, row by row. -/
structure Vram where
  /-- The pixels, 16 bits each. -/
  pixels : Vector UInt16 vramSize

namespace Vram

/-- Where the pixel at a column and row is kept. -/
@[inline] def index (x y : Nat) : Fin vramSize :=
  ⟨y % 512 * 1024 + x % 1024, by unfold vramSize; omega⟩

/-- Video memory is black at power on. -/
def powerOn : Vram := ⟨Vector.replicate vramSize 0⟩

/-- The pixel at a column and row. -/
@[inline] def get (vram : Vram) (x y : Nat) : UInt16 := vram.pixels[index x y]

/-- Replace the pixel at a column and row. -/
@[inline] def set (vram : Vram) (x y : Nat) (pixel : UInt16) : Vram :=
  ⟨vram.pixels.set (index x y) pixel⟩

/-- Two places are the same exactly if their coordinates agree on the torus. -/
theorem index_eq_iff (x y x' y' : Nat) :
    index x y = index x' y' ↔ x % 1024 = x' % 1024 ∧ y % 512 = y' % 512 := by
  rw [index, index, Fin.mk.injEq]
  omega

/-- A write is read back at its own place and nowhere else. -/
theorem get_set (vram : Vram) (x y x' y' : Nat) (pixel : UInt16) :
    (vram.set x y pixel).get x' y' =
      if x % 1024 = x' % 1024 ∧ y % 512 = y' % 512 then pixel else vram.get x' y' := by
  unfold get set
  by_cases h : index x y = index x' y'
  · simp [h, (index_eq_iff x y x' y').mp h]
  · have hv : (index x y).val ≠ (index x' y').val := fun he => h (Fin.ext he)
    rw [if_neg (fun hc => h ((index_eq_iff x y x' y').mpr hc))]
    simp [hv]

end Vram

/-- A rectangle of pixels in video memory, which may wrap around its edges. -/
structure Rect where
  /-- Column of the top left pixel. -/
  left : Nat
  /-- Row of the top left pixel. -/
  top : Nat
  /-- Pixels in a row. -/
  width : Nat
  /-- Number of rows. -/
  height : Nat
  deriving DecidableEq

namespace Rect

/-- Number of pixels in the rectangle. -/
def area (rect : Rect) : Nat := rect.width * rect.height

/-- Column of pixel number `k`. -/
@[inline] def column (rect : Rect) (k : Nat) : Nat := rect.left + k % rect.width

/-- Row of pixel number `k`. -/
@[inline] def row (rect : Rect) (k : Nat) : Nat := rect.top + k / rect.width

end Rect

namespace Vram

/-- Pixel number `k` of a rectangle. -/
def getIn (vram : Vram) (rect : Rect) (k : Nat) : UInt16 := vram.get (rect.column k) (rect.row k)

/-- Replace pixel number `k` of a rectangle. -/
def setIn (vram : Vram) (rect : Rect) (k : Nat) (pixel : UInt16) : Vram :=
  vram.set (rect.column k) (rect.row k) pixel

/-- Give one colour to the pixels of a rectangle from number `k` on, of which
`count` are left. -/
def fillFrom (rect : Rect) (pixel : UInt16) : (count k : Nat) → Vram → Vram
  | 0, _, vram => vram
  | count + 1, k, vram => fillFrom rect pixel count (k + 1) (vram.setIn rect k pixel)

/-- Give one colour to all pixels of a rectangle. -/
def fill (vram : Vram) (rect : Rect) (pixel : UInt16) : Vram :=
  fillFrom rect pixel rect.area 0 vram

/-- Copy the pixels of one rectangle to another of the same size, from number
`k` on, of which `count` are left. A pixel overwritten before it is read is
read as overwritten. -/
def copyFrom (source target : Rect) : (count k : Nat) → Vram → Vram
  | 0, _, vram => vram
  | count + 1, k, vram =>
    copyFrom source target count (k + 1) (vram.setIn target k (vram.getIn source k))

/-- Copy all pixels of one rectangle to another of the same size, in order. -/
def copy (vram : Vram) (source target : Rect) : Vram :=
  copyFrom source target source.area 0 vram

end Vram

end Playstation
