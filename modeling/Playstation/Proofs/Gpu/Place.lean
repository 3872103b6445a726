import Mathlib.Logic.Basic
import Playstation.Proofs.Checked.Cursor

/-!
# Places in video memory

A place is a column and a row, and what video memory holds is told by the pixel at
every place. The pixels of a rectangle wrap around the edges, and different ones are
in different places. A loop that writes them one after the other has at each moment
painted a part of the rectangle and kept all other places.
-/

namespace Playstation

/-- A column and a row of video memory. -/
abbrev Place : Type := Fin 1024 × Fin 512

/-- The place of pixel number `k`, from the left edge of a row to the right and from
the top row down. -/
def Rect.place (rect : Rect) (k : Nat) : Place :=
  (Fin.ofNat 1024 (rect.left + k % rect.width), Fin.ofNat 512 (rect.top + k / rect.width))

/-- The rectangle of an image transfer by the halves of its position and size words. -/
theorem Rect.ofImageWords_eq (position size : UInt32) :
    ofImageWords position size =
      { left := (position &&& 0x3ff).toNat
        top := ((position >>> 16) &&& 0x1ff).toNat
        width := (((size &&& 0xffff) - 1) &&& 0x3ff).toNat + 1
        height := (((size >>> 16) - 1) &&& 0x1ff).toNat + 1 } := by
  have hmask : (lowMask 16 : UInt32) = 0xffff := by decide
  have hlower : bits size 0 15 = size &&& 0xffff := by
    change size >>> 0 &&& lowMask 16 = _
    rw [UInt32.shiftRight_zero, hmask]
  have hupper (word : UInt32) : bits word 16 31 = word >>> 16 := bits_top word (by decide)
  rw [ofImageWords, hlower, hupper, hupper]

/-- The pixel at a place. -/
def Vram.pixelAt (vram : Vram) (place : Place) : UInt16 := vram.get place.1 place.2

/-- Different pixels of a rectangle that fits onto the torus are in different
places. -/
theorem Rect.Bounded.place_inj {rect : Rect} {j k : Nat} (h : rect.Bounded) (hj : j < rect.area)
    (hk : k < rect.area) : rect.place j = rect.place k ↔ j = k := by
  have hrow {n : Nat} (hn : n < rect.area) : n / rect.width < rect.height := by
    apply Nat.div_lt_of_lt_mul
    exact hn
  have hcolumn (n : Nat) : n % rect.width < rect.width := Nat.mod_lt n h.width.1
  have hsplit (n : Nat) := Nat.div_add_mod n rect.width
  have hwidth := h.width.2
  have hheight := h.height.2
  refine ⟨fun hsame => ?_, fun hsame => hsame ▸ rfl⟩
  have hx : (rect.left + j % rect.width) % 1024 = (rect.left + k % rect.width) % 1024 :=
    congrArg (·.1.val) hsame
  have hy : (rect.top + j / rect.width) % 512 = (rect.top + k / rect.width) % 512 :=
    congrArg (·.2.val) hsame
  have hjx := hcolumn j
  have hkx := hcolumn k
  have hjy := hrow hj
  have hky := hrow hk
  have hsamex : j % rect.width = k % rect.width := by omega
  have hsamey : j / rect.width = k / rect.width := by
    generalize j / rect.width = m at *
    generalize k / rect.width = n at *
    omega
  rw [← hsplit j, ← hsplit k, hsamex, hsamey]

namespace Vram

variable {vram before after : Vram} {rect : Rect} {j k : Nat}

/-- The pixels of a rectangle are those at their places. -/
theorem getIn_eq (vram : Vram) (rect : Rect) (k : Nat) :
    vram.getIn rect k = vram.pixelAt (rect.place k) := by
  have hindex : index (rect.column k) (rect.row k) =
      index (rect.place k).1 (rect.place k).2 :=
    (index_eq_iff _ _ _ _).mpr ⟨(Nat.mod_mod _ _).symm, (Nat.mod_mod _ _).symm⟩
  exact congrArg (fun i : Fin vramSize => vram.pixels[i]) hindex

/-- A pixel of a rectangle is replaced at its place. -/
theorem pixelAt_setIn (vram : Vram) (rect : Rect) (k : Nat) (pixel : UInt16) (place : Place) :
    (vram.setIn rect k pixel).pixelAt place =
      if rect.place k = place then pixel else vram.pixelAt place := by
  have hsame : (rect.column k % 1024 = place.1.val % 1024 ∧
      rect.row k % 512 = place.2.val % 512) ↔ rect.place k = place := by
    rw [Nat.mod_eq_of_lt place.1.isLt, Nat.mod_eq_of_lt place.2.isLt, Prod.ext_iff, Fin.ext_iff,
      Fin.ext_iff]
    rfl
  rw [pixelAt, setIn, get_set]
  exact if_congr hsame rfl rfl

/-- A pixel of a rectangle is read back, and the others keep their value. -/
theorem getIn_setIn (vram : Vram) (h : rect.Bounded) (hj : j < rect.area) (hk : k < rect.area)
    (pixel : UInt16) :
    (vram.setIn rect k pixel).getIn rect j = if k = j then pixel else vram.getIn rect j := by
  rw [getIn_eq, getIn_eq, pixelAt_setIn]
  exact if_congr (h.place_inj hk hj) rfl rfl

/-- Writing a pixel which is there already changes nothing. -/
theorem setIn_getIn (vram : Vram) : vram.setIn rect k (vram.getIn rect k) = vram := by
  rw [setIn, getIn, set, get]
  exact congrArg mk (Vector.set_getElem_self _)

/-- The pixels at all places make up video memory. -/
theorem eq_of_pixelAt (h : ∀ place, before.pixelAt place = after.pixelAt place) :
    before = after := by
  rcases before with ⟨before⟩
  rcases after with ⟨after⟩
  refine congrArg mk (Vector.ext fun i hi => ?_)
  have hplace := h (Fin.ofNat 1024 i, ⟨i / 1024, by unfold vramSize at hi; omega⟩)
  have hindex : index (i % 1024) (i / 1024) = ⟨i, hi⟩ := by
    apply Fin.ext
    change i / 1024 % 512 * 1024 + i % 1024 % 1024 = i
    unfold vramSize at hi
    omega
  have hread (pixels : Vector UInt16 vramSize) :
      pixels[index (i % 1024) (i / 1024)] = pixels[i] :=
    congrArg (fun n : Fin vramSize => pixels[n]) hindex
  exact (hread before).symm.trans (hplace.trans (hread after))

/-- The first `count` pixels of a rectangle are painted, and nothing else. -/
structure Paints (before after : Vram) (rect : Rect) (count : Nat) (pixels : Nat → UInt16) :
    Prop where
  /-- The painted pixels. -/
  painted : ∀ k < count, after.pixelAt (rect.place k) = pixels k
  /-- The other places. -/
  kept : ∀ place, (∀ k < count, rect.place k ≠ place) →
    after.pixelAt place = before.pixelAt place

variable {pixels others : Nat → UInt16} {count : Nat}

/-- At first no pixel is painted. -/
theorem Paints.zero (vram : Vram) (rect : Rect) (pixels : Nat → UInt16) :
    vram.Paints vram rect 0 pixels where
  painted _ hk := absurd hk (Nat.not_lt_zero _)
  kept _ _ := rfl

/-- One more pixel is painted. -/
theorem Paints.setIn (h : before.Paints after rect k pixels) (hrect : rect.Bounded)
    (hk : k < rect.area) {pixel : UInt16} (hpixel : pixel = pixels k) :
    before.Paints (after.setIn rect k pixel) rect (k + 1) pixels where
  painted j hj := by
    rw [pixelAt_setIn]
    by_cases hlast : j = k
    · rw [hlast, if_pos rfl, hpixel]
    · rw [if_neg fun hsame => hlast ((hrect.place_inj hk (by omega)).mp hsame).symm,
        h.painted j (by omega)]
  kept place houtside := by
    rw [pixelAt_setIn, if_neg (houtside k (Nat.lt_succ_self k))]
    exact h.kept place fun j hj => houtside j (Nat.lt_succ_of_lt hj)

/-- What is painted with the same pixels is the same. -/
theorem Paints.unique {other : Vram} (h : before.Paints after rect count pixels)
    (hother : before.Paints other rect count others) (hpixels : ∀ k < count, pixels k = others k) :
    after = other := by
  apply eq_of_pixelAt
  intro place
  by_cases hinside : ∃ k < count, rect.place k = place
  · obtain ⟨k, hk, rfl⟩ := hinside
    rw [h.painted k hk, hother.painted k hk, hpixels k hk]
  · have houtside : ∀ k < count, rect.place k ≠ place :=
      fun k hk hsame => hinside ⟨k, hk, hsame⟩
    rw [h.kept place houtside, hother.kept place houtside]

end Vram

end Playstation
