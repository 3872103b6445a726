import Playstation.Proofs.Field
import Playstation.Proofs.Gpu.Operation
import Playstation.Proofs.Gpu.Place

/-!
# Filled rectangles

A fill writes one pixel after the other, past the right and the bottom edge of video
memory, where the places wrap around. Which of them is written when makes no
difference, as all get the same colour. The places which are written are those whose
distance from the top left corner, counted to the right and downwards on the torus, is
below the width and the height.
-/

namespace Playstation

open MachineWord

namespace Rect

variable {rect : Rect} {place : Place}

/-- Whether a place is in a rectangle: its distance from the left edge to the right,
and from the top edge downwards, is below the width and the height. -/
def Covers (rect : Rect) (place : Place) : Prop :=
  ((place.1.val : Int) - rect.left) % 1024 < rect.width ∧
    ((place.2.val : Int) - rect.top) % 512 < rect.height

instance (rect : Rect) (place : Place) : Decidable (rect.Covers place) :=
  inferInstanceAs (Decidable (_ ∧ _))

/-- The pixels of a rectangle are in the places which it covers. -/
theorem exists_place_iff : (∃ k < rect.area, rect.place k = place) ↔ rect.Covers place := by
  constructor
  · rintro ⟨k, hk, rfl⟩
    have hpos : 0 < rect.width := Nat.pos_of_mul_pos_right (Nat.zero_lt_of_lt hk)
    have hcolumn : k % rect.width < rect.width := Nat.mod_lt k hpos
    have hrow : k / rect.width < rect.height := by
      apply Nat.div_lt_of_lt_mul
      exact hk
    have hx : (rect.place k).1.val = (rect.left + k % rect.width) % 1024 := rfl
    have hy : (rect.place k).2.val = (rect.top + k / rect.width) % 512 := rfl
    rw [Covers, hx, hy]
    generalize k % rect.width = column at hcolumn ⊢
    generalize k / rect.width = row at hrow ⊢
    omega
  · rintro ⟨hx, hy⟩
    have hleft := place.1.isLt
    have htop := place.2.isLt
    -- The pixel is found from its distances, the row first.
    obtain ⟨column, hcolumn⟩ : ∃ column : Nat, ((place.1.val : Int) - rect.left) % 1024 = column :=
      Int.eq_ofNat_of_zero_le (Int.emod_nonneg _ (by decide))
    obtain ⟨row, hrow⟩ : ∃ row : Nat, ((place.2.val : Int) - rect.top) % 512 = row :=
      Int.eq_ofNat_of_zero_le (Int.emod_nonneg _ (by decide))
    have hwidth : column < rect.width := by omega
    have hheight : row < rect.height := by omega
    have hmod : (rect.width * row + column) % rect.width = column := by
      rw [Nat.mul_add_mod, Nat.mod_eq_of_lt hwidth]
    have hdiv : (rect.width * row + column) / rect.width = row := by
      rw [Nat.mul_add_div (by omega), Nat.div_eq_of_lt hwidth, Nat.add_zero]
    refine ⟨rect.width * row + column, ?_, ?_⟩
    · calc rect.width * row + column < rect.width * row + rect.width := by omega
        _ = rect.width * (row + 1) := rfl
        _ ≤ rect.area := Nat.mul_le_mul_left _ hheight
    · rw [Rect.place, hmod, hdiv]
      refine Prod.ext (Fin.ext ?_) (Fin.ext ?_)
      · change (rect.left + column) % 1024 = place.1.val
        omega
      · change (rect.top + row) % 512 = place.2.val
        omega

end Rect

/-- The rectangle of a fill by its parts, with its width rounded up. -/
theorem Rect.ofFillWords_eq (position size : UInt32) :
    ofFillWords position size =
      { left := (position &&& 0x3f0).toNat
        top := ((position >>> 16) &&& 0x1ff).toNat
        width := ((size &&& 0x3ff).toNat + 15) / 16 * 16
        height := ((size >>> 16) &&& 0x1ff).toNat } := by
  have hsize := toNat_and_column_lt size
  have hround : (0xf : UInt32).toNat = 15 := rfl
  have hwidth : (((size &&& 0x3ff) + 0xf) &&& 0xfffffff0).toNat =
      ((size &&& 0x3ff).toNat + 15) / 16 * 16 := by
    rw [@toNat_and_field _ 0xfffffff0 28 4 rfl, UInt32.toNat_add, hround]
    omega
  rw [ofFillWords, hwidth]

/-- The rectangle of a fill which is not empty fits onto the torus. -/
theorem Rect.bounded_ofFillWords {position size : UInt32}
    (h : 0 < (ofFillWords position size).area) : (ofFillWords position size).Bounded := by
  have hleft : (ofFillWords position size).left ≤ 0x3f0 := by
    change (position &&& 0x3f0).toNat ≤ 0x3f0
    rw [UInt32.toNat_and]
    exact Nat.and_le_right
  have hwidth : (ofFillWords position size).width ≤ 1024 := by
    have hsize := toNat_and_column_lt size
    rw [ofFillWords_eq]
    dsimp only
    omega
  exact
    { left := Nat.lt_of_le_of_lt hleft (by decide)
      top := toNat_and_row_lt (position >>> 16)
      width := ⟨Nat.pos_of_mul_pos_right h, hwidth⟩
      height := ⟨Nat.pos_of_mul_pos_left h, Nat.le_of_lt (toNat_and_row_lt (size >>> 16))⟩ }

namespace Vram

variable {before vram : Vram} {rect : Rect} {pixel : UInt16} {k : Nat}

/-- The rest of a fill paints the rest of the rectangle with its colour. -/
theorem paints_fillFrom (hrect : rect.Bounded) (count : Nat) (hcount : k + count = rect.area)
    (h : before.Paints vram rect k fun _ => pixel) :
    before.Paints (fillFrom rect pixel count k vram) rect rect.area fun _ => pixel := by
  induction count generalizing k vram with
  | zero => exact hcount ▸ h
  | succ count ih => exact ih (by omega) (h.setIn hrect (by omega) rfl)

/-- A fill paints its rectangle, which may be empty. -/
theorem paints_fill (vram : Vram) (hrect : 0 < rect.area → rect.Bounded) (pixel : UInt16) :
    vram.Paints (vram.fill rect pixel) rect rect.area fun _ => pixel := by
  have hzero : vram.Paints vram rect 0 fun _ => pixel := .zero vram rect _
  rcases Nat.eq_zero_or_pos rect.area with hempty | hpos
  · rw [fill, hempty]
    exact hzero
  · exact paints_fillFrom (hrect hpos) rect.area (Nat.zero_add _) hzero

/-- What is painted with one colour shows it in the places which are covered, and what
has been there before in the others. -/
theorem Paints.pixelAt_eq {after : Vram} (h : before.Paints after rect rect.area fun _ => pixel)
    (place : Place) :
    after.pixelAt place = if rect.Covers place then pixel else before.pixelAt place := by
  by_cases hcovers : rect.Covers place
  · obtain ⟨k, hk, rfl⟩ := Rect.exists_place_iff.mpr hcovers
    rw [if_pos hcovers]
    exact h.painted k hk
  · rw [if_neg hcovers]
    exact h.kept place fun k hk hsame => hcovers (Rect.exists_place_iff.mp ⟨k, hk, hsame⟩)

end Vram

/-- The pixel of a colour is made up of the five top bits of its three parts. -/
theorem toNat_pixelOfColour (colour : UInt32) :
    (pixelOfColour colour).toNat =
      colour.toNat % 256 / 8 + colour.toNat / 256 % 256 / 8 * 32 +
        colour.toNat / 65536 % 256 / 8 * 1024 := by
  have hred : (bits colour 3 7).toNat = colour.toNat % 256 / 8 := by
    rw [toNat_bits _ (by decide) (by decide)]
    omega
  have hgreen : (bits colour 11 15).toNat = colour.toNat / 256 % 256 / 8 := by
    rw [toNat_bits _ (by decide) (by decide)]
    omega
  have hblue : (bits colour 19 23).toNat = colour.toNat / 65536 % 256 / 8 := by
    rw [toNat_bits _ (by decide) (by decide)]
    omega
  have hfive : (5 : UInt32).toNat = 5 := rfl
  have hten : (10 : UInt32).toNat = 10 := rfl
  have hlower : (bits colour 3 7 ||| bits colour 11 15 <<< 5).toNat =
      (bits colour 3 7).toNat + (bits colour 11 15).toNat * 32 :=
    toNat_or_shiftLeft (by decide) (by rw [hfive]; omega) (by rw [hfive]; omega)
  have hall : (bits colour 3 7 ||| bits colour 11 15 <<< 5 ||| bits colour 19 23 <<< 10).toNat =
      (bits colour 3 7 ||| bits colour 11 15 <<< 5).toNat + (bits colour 19 23).toNat * 1024 :=
    toNat_or_shiftLeft (by decide) (by rw [hten]; omega) (by rw [hten]; omega)
  rw [pixelOfColour, UInt32.toNat_toUInt16, hall, hlower, hred, hgreen, hblue]
  omega

namespace Gpu

variable {gpu : Gpu} {word : UInt32}

/-- A fill is announced by three words. -/
theorem collects_fill (h : topByte word = 0x02) : Gp0Start.ofWord word = .collect .fillRect 3 :=
  Gp0Start.ofWord_eq_collect_iff.mpr ⟨h, rfl⟩

/-- What a fill leaves of the graphics processor. -/
structure ImageFilled (before after : Gpu) (rect : Rect) (pixel : UInt16) : Prop where
  /-- The drawing port waits for a command. -/
  idle : after.isIdle = true
  /-- The places which are covered show the pixel, and the others what they have shown. -/
  shown : ∀ place, after.vram.pixelAt place =
    if rect.Covers place then pixel else before.vram.pixelAt place
  /-- A rectangle without columns or rows leaves video memory. -/
  empty : rect.width = 0 ∨ rect.height = 0 → after.vram = before.vram
  /-- A rectangle with all columns fills whole rows. -/
  rows : rect.width = 1024 → ∀ place : Place,
    ((place.2.val : Int) - rect.top) % 512 < rect.height → after.vram.pixelAt place = pixel
  /-- Nothing changes but video memory and the phase of the drawing port. -/
  rest : after = { before with phase := .idle, vram := after.vram }

/-- A fill consists of a colour, in the word which announces it, a position and a size.
The left edge is a multiple of sixteen and the width is rounded up to one. Afterwards the
pixels whose distance from the top left corner is below the width and the height, around
the edges of video memory, show the five top bits of each part of the colour, with the
mask bit clear, and the others are unchanged. So nothing is filled if the width or the
height is zero, and whole rows if the width is that of video memory. The loop over rows,
and over the columns of each, has that result, and no sum or index in it is too large. -/
theorem image_filled (hidle : gpu.isIdle = true) {colour : UInt32} (hcolour : topByte colour = 0x02)
    (position size : UInt32) :
    let rect : Rect :=
      { left := (position &&& 0x3f0).toNat
        top := ((position >>> 16) &&& 0x1ff).toNat
        width := ((size &&& 0x3ff).toNat + 15) / 16 * 16
        height := ((size >>> 16) &&& 0x1ff).toNat }
    let red := colour.toNat % 256
    let green := colour.toNat / 256 % 256
    let blue := colour.toNat / 65536 % 256
    let after := [colour, position, size].foldl gp0 gpu
    ∃ pixel : UInt16, pixel.toNat = red / 8 + green / 8 * 32 + blue / 8 * 1024 ∧
      gpu.ImageFilled after rect pixel ∧
      gpu.vram.checkedFill position size pixel = some after.vram := by
  intro rect red green blue after
  have hrect : Rect.ofFillWords position size = rect := Rect.ofFillWords_eq position size
  have hafter : after =
      { gpu with phase := .idle, vram := gpu.vram.fill rect (pixelOfColour colour) } := by
    have hcommand : Gp0Start.ofWord colour = .collect .fillRect ([position, size].length + 1) :=
      collects_fill hcolour
    rw [← hrect]
    exact foldl_gp0_command hidle hcommand
  have hbounded : 0 < rect.area → rect.Bounded := by
    rw [← hrect]
    exact Rect.bounded_ofFillWords
  have hshown : ∀ place, after.vram.pixelAt place =
      if rect.Covers place then pixelOfColour colour else gpu.vram.pixelAt place := by
    rw [hafter]
    exact (gpu.vram.paints_fill hbounded (pixelOfColour colour)).pixelAt_eq
  refine ⟨pixelOfColour colour, toNat_pixelOfColour colour, ?_, ?_⟩
  · refine ⟨by rw [hafter]; rfl, hshown, fun hempty => ?_, fun hwidth place hrow => ?_, ?_⟩
    · refine Vram.eq_of_pixelAt fun place => (hshown place).trans (if_neg ?_)
      rintro ⟨hx, hy⟩
      omega
    · rw [hshown place, if_pos ⟨by omega, hrow⟩]
    · rw [hafter]
  · rw [Vram.checkedFill_eq, hrect, hafter]

/-- A rectangle of 32 by 2 pixels at the bottom right, sixteen columns from the right
edge and in the last row, is continued at the left and at the top. -/
theorem image_filled_corner :
    let after := [0x02ff8040, 0x01ff03fe, 0x00020011].foldl gp0 powerOn
    powerOn.isIdle = true ∧ topByte 0x02ff8040 = 0x02 ∧ after.isIdle = true ∧
    after.vram.pixelAt (1008, 511) = 0x7e08 ∧ after.vram.pixelAt (15, 0) = 0x7e08 ∧
    after.vram.pixelAt (16, 0) = powerOn.vram.pixelAt (16, 0) ∧
    after.vram.pixelAt (1007, 511) = powerOn.vram.pixelAt (1007, 511) ∧
    after.vram.pixelAt (15, 1) = powerOn.vram.pixelAt (15, 1) := by
  intro after
  have hidle : powerOn.isIdle = true := rfl
  have hcolour : topByte 0x02ff8040 = 0x02 := by decide
  obtain ⟨pixel, hpixel, hfilled, -⟩ := image_filled hidle hcolour 0x01ff03fe 0x00020011
  obtain rfl : pixel = 0x7e08 := UInt16.toNat_inj.mp hpixel
  refine ⟨hidle, hcolour, hfilled.idle, ?_, ?_, ?_, ?_, ?_⟩
  · exact (hfilled.shown (1008, 511)).trans (if_pos (by decide))
  · exact (hfilled.shown (15, 0)).trans (if_pos (by decide))
  · exact (hfilled.shown (16, 0)).trans (if_neg (by decide))
  · exact (hfilled.shown (1007, 511)).trans (if_neg (by decide))
  · exact (hfilled.shown (15, 1)).trans (if_neg (by decide))

end Gpu

end Playstation
