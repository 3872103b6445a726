import Playstation.Gpu.Command
import Playstation.Proofs.Checked.Word

/-!
# Checked pixel loops

A transfer keeps a cursor: the column and row of its next pixel and the edges
at which the column starts over and the transfer ends. The cursor moves by
sums that have to fit into a word, and it names a pixel by a product and a sum
that have to be an index of video memory. The main statements are that the
cursor of pixel `k` moves to that of pixel `k + 1`, and that the loops over
cursors do what the loops over pixel numbers do.
-/

namespace Playstation

open MachineWord

/-- The sides of a rectangle which fit onto the torus of video memory. -/
structure Rect.Bounded (rect : Rect) : Prop where
  /-- The left edge is a column. -/
  left : rect.left < 1024
  /-- The top edge is a row. -/
  top : rect.top < 512
  /-- There is a column, and not more than there are. -/
  width : 0 < rect.width ∧ rect.width ≤ 1024
  /-- There is a row, and not more than there are. -/
  height : 0 < rect.height ∧ rect.height ≤ 512

/-- The next pixel of a transfer, with the edges of its rectangle. -/
structure Cursor where
  /-- Column of the pixel. -/
  x : UInt32
  /-- Row of the pixel. -/
  y : UInt32
  /-- Column where each row starts. -/
  left : UInt32
  /-- Column where each row ends. -/
  right : UInt32
  /-- Row where the transfer ends. -/
  bottom : UInt32
  deriving DecidableEq

namespace Cursor

/-- The first pixel of a transfer, from its position and size words. -/
def checkedOfWords (position size : UInt32) : Option Cursor := do
  let column ← checkedBits position 0 15
  let row ← checkedBits position 16 31
  let x := column &&& 0x3ff
  let y := row &&& 0x1ff
  let width ← checkedBits size 0 15
  let width ← checkedAdd ((width - 1) &&& 0x3ff) 1
  let height ← checkedBits size 16 31
  let height ← checkedAdd ((height - 1) &&& 0x1ff) 1
  let right ← checkedAdd x width
  let bottom ← checkedAdd y height
  return ⟨x, y, x, right, bottom⟩

/-- The pixel after this one. -/
def checkedNext (cursor : Cursor) : Option Cursor := do
  let x ← checkedAdd cursor.x 1
  if x = cursor.right then
    let y ← checkedAdd cursor.y 1
    return { cursor with x := cursor.left, y }
  else return { cursor with x }

/-- Whether the transfer has ended. -/
def isDone (cursor : Cursor) : Bool := cursor.bottom ≤ cursor.y

/-- The cursor of pixel number `k` of a rectangle. -/
def ofPixel (rect : Rect) (k : Nat) : Cursor where
  x := (rect.column k).toUInt32
  y := (rect.row k).toUInt32
  left := rect.left.toUInt32
  right := (rect.left + rect.width).toUInt32
  bottom := (rect.top + rect.height).toUInt32

end Cursor

/-- Where the pixel at a column and row is kept. -/
def checkedVramIndex (x y : UInt32) : Option Nat := do
  let start ← checkedMul (y &&& 0x1ff) 1024
  let index ← checkedAdd start (x &&& 0x3ff)
  return index.toNat

namespace Vram

/-- The pixel at a column and row. -/
def checkedGet (vram : Vram) (x y : UInt32) : Option UInt16 := do
  let index ← checkedVramIndex x y
  vram.pixels[index]?

/-- Replace the pixel at a column and row. -/
def checkedPut (vram : Vram) (x y : UInt32) (pixel : UInt16) : Option Vram := do
  let index ← checkedVramIndex x y
  let pixels ← checkedSet vram.pixels index pixel
  return ⟨pixels⟩

/-- Copy pixels from one cursor to another until the first one is done. A loop
that takes more than `limit` rounds has no result. -/
def checkedCopy : (limit : Nat) → (source target : Cursor) → Vram → Option Vram
  | 0, _, _, _ => none
  | limit + 1, source, target, vram =>
    if source.isDone then some vram
    else do
      let pixel ← vram.checkedGet source.x source.y
      let vram ← vram.checkedPut target.x target.y pixel
      let source ← source.checkedNext
      let target ← target.checkedNext
      checkedCopy limit source target vram

/-- Give one colour to `count` pixels of a row. -/
def checkedFillRow (pixel : UInt16) (y : UInt32) : (count : Nat) → (x : UInt32) → Vram → Option Vram
  | 0, _, vram => some vram
  | count + 1, x, vram => do
    let vram ← vram.checkedPut x y pixel
    checkedFillRow pixel y count (x + 1) vram

/-- Give one colour to `count` rows, each from a left edge on. -/
def checkedFillRows (pixel : UInt16) (left width : UInt32) :
    (count : Nat) → (y : UInt32) → Vram → Option Vram
  | 0, _, vram => some vram
  | count + 1, y, vram => do
    let right ← checkedAdd left width
    let vram ← checkedFillRow pixel y (right - left).toNat left vram
    checkedFillRows pixel left width count (y + 1) vram

/-- Give one colour to a rectangle, from its position and size words. -/
def checkedFill (vram : Vram) (position size : UInt32) (pixel : UInt16) : Option Vram := do
  let x := position &&& 0x3f0
  let row ← checkedShiftDown position 16
  let y := row &&& 0x1ff
  let width ← checkedAdd (size &&& 0x3ff) 0xf
  let width := width &&& 0xfffffff0
  let height ← checkedShiftDown size 16
  let height := height &&& 0x1ff
  let bottom ← checkedAdd y height
  checkedFillRows pixel x width (bottom - y).toNat y vram

end Vram

/-- The pixel of a 24-bit colour. -/
def checkedPixelOfColour (colour : UInt32) : Option UInt16 := do
  let red ← checkedBits colour 3 7
  let green ← checkedBits colour 11 15
  let green ← checkedShiftUp green 5
  let blue ← checkedBits colour 19 23
  let blue ← checkedShiftUp blue 10
  return (red ||| green ||| blue).toUInt16

/-- A masked number is a column. -/
theorem toNat_and_column_lt (x : UInt32) : (x &&& 0x3ff).toNat < 1024 := by
  rw [@toNat_and_mask x 0x3ff 10 rfl]
  omega

/-- A masked number is a row. -/
theorem toNat_and_row_lt (y : UInt32) : (y &&& 0x1ff).toNat < 512 := by
  rw [@toNat_and_mask y 0x1ff 9 rfl]
  omega

/-- Every column and row name a pixel. -/
theorem checkedVramIndex_eq (x y : UInt32) :
    checkedVramIndex x y = some (Vram.index x.toNat y.toNat).val := by
  have hx : (x &&& 0x3ff).toNat = x.toNat % 1024 := @toNat_and_mask x 0x3ff 10 rfl
  have hy : (y &&& 0x1ff).toNat = y.toNat % 512 := @toNat_and_mask y 0x1ff 9 rfl
  have hwidth : (1024 : UInt32).toNat = 1024 := rfl
  have hmul : (y &&& 0x1ff).toNat * (1024 : UInt32).toNat < 2 ^ 32 := by
    rw [hwidth]
    omega
  have hstart : ((y &&& 0x1ff) * 1024).toNat = y.toNat % 512 * 1024 := by
    rw [UInt32.toNat_mul, hy, hwidth]
    omega
  have hadd : ((y &&& 0x1ff) * 1024).toNat + (x &&& 0x3ff).toNat < 2 ^ 32 := by omega
  have hindex : ((y &&& 0x1ff) * 1024 + (x &&& 0x3ff)).toNat =
      y.toNat % 512 * 1024 + x.toNat % 1024 := by
    rw [UInt32.toNat_add, hstart, hx]
    omega
  rw [checkedVramIndex, checkedMul_eq hmul]
  simp only [Option.bind_eq_bind, Option.bind_some, checkedAdd_eq hadd, hindex, Option.pure_def,
    Vram.index]

namespace Vram

variable (vram : Vram) (x y : UInt32)

/-- Every pixel can be read. -/
theorem checkedGet_eq : vram.checkedGet x y = some (vram.get x.toNat y.toNat) := by
  rw [checkedGet, checkedVramIndex_eq]
  exact Vector.getElem?_eq_getElem (index x.toNat y.toNat).isLt

/-- Every pixel can be replaced. -/
theorem checkedPut_eq (pixel : UInt16) :
    vram.checkedPut x y pixel = some (vram.set x.toNat y.toNat pixel) := by
  rw [checkedPut, checkedVramIndex_eq]
  simp only [Option.bind_eq_bind, Option.bind_some, checkedSet,
    dif_pos (index x.toNat y.toNat).isLt]
  rfl

end Vram

namespace Rect

variable {rect : Rect} {k : Nat}

/-- Image transfers are bounded, whatever their position and size words. -/
theorem bounded_ofImageWords (position size : UInt32) : (ofImageWords position size).Bounded where
  left := toNat_and_column_lt position
  top := toNat_and_row_lt (bits position 16 31)
  width := ⟨Nat.succ_pos _, toNat_and_column_lt (bits size 0 15 - 1)⟩
  height := ⟨Nat.succ_pos _, toNat_and_row_lt (bits size 16 31 - 1)⟩

/-- A bounded rectangle has a pixel. -/
theorem Bounded.area_pos (h : rect.Bounded) : 0 < rect.area :=
  Nat.mul_pos h.width.1 h.height.1

/-- A bounded rectangle has at most as many pixels as video memory. -/
theorem Bounded.area_le (h : rect.Bounded) : rect.area ≤ vramSize :=
  Nat.mul_le_mul h.width.2 h.height.2

/-- The columns of a bounded rectangle are before its right edge. -/
theorem Bounded.column_lt (h : rect.Bounded) : rect.column k < rect.left + rect.width :=
  Nat.add_lt_add_left (Nat.mod_lt k h.width.1) rect.left

/-- The bottom edge is reached exactly after the last pixel. -/
theorem Bounded.bottom_le_row_iff (h : rect.Bounded) :
    rect.top + rect.height ≤ rect.row k ↔ rect.area ≤ k := by
  rw [row, Nat.add_le_add_iff_left, Nat.le_div_iff_mul_le h.width.1, area, Nat.mul_comm]

/-- No row is far below the bottom edge. -/
theorem row_le (hk : k ≤ rect.area) :
    rect.row k ≤ rect.top + rect.height := by
  have hdiv : k / rect.width ≤ rect.height := by
    apply Nat.div_le_of_le_mul
    exact hk
  exact Nat.add_le_add_left hdiv rect.top

/-- At the end of a row the next pixel is the first one of the next row. -/
theorem Bounded.wrap (h : rect.Bounded) (hend : rect.column k + 1 = rect.left + rect.width) :
    rect.column (k + 1) = rect.left ∧ rect.row (k + 1) = rect.row k + 1 := by
  have hsplit := Nat.div_add_mod k rect.width
  have hmod : k % rect.width + 1 = rect.width := by
    rw [column] at hend
    omega
  have hnext : k + 1 = rect.width * (k / rect.width + 1) := by
    rw [Nat.mul_succ]
    omega
  rw [column, row, row, hnext, Nat.mul_mod_right, Nat.mul_div_cancel_left _ h.width.1]
  exact ⟨rfl, rfl⟩

/-- Before the end of a row the next pixel is in the next column. -/
theorem Bounded.advance (h : rect.Bounded) (hend : rect.column k + 1 ≠ rect.left + rect.width) :
    rect.column (k + 1) = rect.column k + 1 ∧ rect.row (k + 1) = rect.row k := by
  have hsplit := Nat.div_add_mod k rect.width
  have hlt := Nat.mod_lt k h.width.1
  have hmod : k % rect.width + 1 < rect.width := by
    rw [column] at hend
    omega
  have hnext : k + 1 = rect.width * (k / rect.width) + (k % rect.width + 1) := by omega
  rw [column, row, row, column, hnext, Nat.mul_add_mod, Nat.mod_eq_of_lt hmod,
    Nat.mul_add_div h.width.1, Nat.div_eq_of_lt hmod]
  exact ⟨rfl, rfl⟩

end Rect

namespace Cursor

variable {rect : Rect} {k : Nat}

/-- A small number is what its word stands for. -/
theorem toNat_toUInt32 {n : Nat} (h : n < 2 ^ 32) : n.toUInt32.toNat = n := Nat.mod_eq_of_lt h

/-- The column of a cursor. -/
theorem toNat_x (h : rect.Bounded) : (ofPixel rect k).x.toNat = rect.column k := by
  have hlt := h.column_lt (k := k)
  have hleft := h.left
  have hwidth := h.width.2
  exact toNat_toUInt32 (by omega)

/-- The row of a cursor. -/
theorem toNat_y (h : rect.Bounded) (hk : k ≤ rect.area) :
    (ofPixel rect k).y.toNat = rect.row k := by
  have hle := Rect.row_le hk
  have htop := h.top
  have hheight := h.height.2
  exact toNat_toUInt32 (by omega)

/-- A transfer starts at its first pixel. -/
theorem checkedOfWords_eq (position size : UInt32) :
    checkedOfWords position size = some (ofPixel (Rect.ofImageWords position size) 0) := by
  have hmask : (lowMask 16 : UInt32) &&& 0x3ff = 0x3ff := by decide
  have hcolumn : bits position 0 15 &&& 0x3ff = position &&& 0x3ff := by
    change (position >>> 0 &&& lowMask 16) &&& 0x3ff = _
    rw [UInt32.shiftRight_zero, UInt32.and_assoc, hmask]
  have hone : (1 : UInt32).toNat = 1 := rfl
  have hx := toNat_and_column_lt position
  have hy := toNat_and_row_lt (bits position 16 31)
  have hw := toNat_and_column_lt (bits size 0 15 - 1)
  have hh := toNat_and_row_lt (bits size 16 31 - 1)
  rw [checkedOfWords]
  simp only [checkedBits_eq _ (by decide : 0 ≤ 15) (by decide : 15 < width UInt32),
    checkedBits_eq _ (by decide : 16 ≤ 31) (by decide : 31 < width UInt32), Option.bind_eq_bind,
    Option.bind_some, hcolumn]
  rw [Rect.ofImageWords]
  generalize position &&& 0x3ff = x at hx ⊢
  generalize bits position 16 31 &&& 0x1ff = y at hy ⊢
  generalize (bits size 0 15 - 1) &&& 0x3ff = w at hw ⊢
  generalize (bits size 16 31 - 1) &&& 0x1ff = v at hh ⊢
  have hwidth : (w + 1).toNat = w.toNat + 1 := by
    rw [UInt32.toNat_add, hone]
    omega
  have hheight : (v + 1).toNat = v.toNat + 1 := by
    rw [UInt32.toNat_add, hone]
    omega
  rw [checkedAdd_eq (by omega), checkedAdd_eq (by omega)]
  simp only [Option.bind_some]
  rw [checkedAdd_eq (by omega), checkedAdd_eq (by omega)]
  simp only [Option.bind_some, Option.pure_def, Option.some.injEq, ofPixel, Rect.column, Rect.row,
    Nat.zero_mod, Nat.zero_div, Nat.add_zero, mk.injEq, ← UInt32.toNat_inj, UInt32.toNat_add]
  rw [toNat_toUInt32 (by omega : x.toNat < 2 ^ 32), toNat_toUInt32 (by omega : y.toNat < 2 ^ 32),
    toNat_toUInt32 (by omega : x.toNat + (w.toNat + 1) < 2 ^ 32),
    toNat_toUInt32 (by omega : y.toNat + (v.toNat + 1) < 2 ^ 32), hone]
  omega

/-- The transfer has ended after its last pixel. -/
theorem isDone_ofPixel (h : rect.Bounded) (hk : k ≤ rect.area) :
    (ofPixel rect k).isDone = decide (rect.area ≤ k) := by
  have hbottom : (ofPixel rect k).bottom.toNat = rect.top + rect.height := by
    have htop := h.top
    have hheight := h.height.2
    exact toNat_toUInt32 (by omega)
  apply decide_eq_decide.mpr
  rw [UInt32.le_iff_toNat_le, hbottom, toNat_y h hk]
  exact h.bottom_le_row_iff

/-- The cursor of a pixel moves to that of the next one. -/
theorem checkedNext_ofPixel (h : rect.Bounded) (hk : k < rect.area) :
    (ofPixel rect k).checkedNext = some (ofPixel rect (k + 1)) := by
  have hx := toNat_x h (k := k)
  have hy := toNat_y h (Nat.le_of_lt hk)
  have hcolumn := h.column_lt (k := k)
  have hrow := Rect.row_le (Nat.le_of_lt hk)
  have hleft := h.left
  have htop := h.top
  have hwidth := h.width.2
  have hheight := h.height.2
  have hone : (1 : UInt32).toNat = 1 := rfl
  have haddx : (ofPixel rect k).x.toNat + (1 : UInt32).toNat < 2 ^ 32 := by omega
  have haddy : (ofPixel rect k).y.toNat + (1 : UInt32).toNat < 2 ^ 32 := by omega
  have hsumx : (ofPixel rect k).x + 1 = (rect.column k + 1).toUInt32 := by
    apply UInt32.toNat_inj.mp
    rw [UInt32.toNat_add, hx, hone, toNat_toUInt32 (by omega)]
    omega
  have hsumy : (ofPixel rect k).y + 1 = (rect.row k + 1).toUInt32 := by
    apply UInt32.toNat_inj.mp
    rw [UInt32.toNat_add, hy, hone, toNat_toUInt32 (by omega)]
    omega
  have hright : (ofPixel rect k).x + 1 = (ofPixel rect k).right ↔
      rect.column k + 1 = rect.left + rect.width := by
    rw [hsumx, ← UInt32.toNat_inj, toNat_toUInt32 (by omega)]
    change _ = (rect.left + rect.width).toUInt32.toNat ↔ _
    rw [toNat_toUInt32 (by omega)]
  rw [checkedNext, checkedAdd_eq haddx]
  simp only [Option.bind_eq_bind, Option.bind_some, hright]
  by_cases hend : rect.column k + 1 = rect.left + rect.width
  · obtain ⟨hnextx, hnexty⟩ := h.wrap hend
    have hnext : ofPixel rect (k + 1) =
        { ofPixel rect k with x := rect.left.toUInt32, y := (rect.row k + 1).toUInt32 } := by
      rw [ofPixel, hnextx, hnexty]
      rfl
    rw [if_pos hend, checkedAdd_eq haddy, hsumy, hnext]
    rfl
  · obtain ⟨hnextx, hnexty⟩ := h.advance hend
    have hnext : ofPixel rect (k + 1) =
        { ofPixel rect k with x := (rect.column k + 1).toUInt32 } := by
      rw [ofPixel, hnextx, hnexty]
      rfl
    rw [if_neg hend, hsumx, hnext]
    rfl

end Cursor

namespace Vram

variable {rect : Rect} {k : Nat} (vram : Vram)

/-- The pixel at a cursor. -/
theorem checkedGet_ofPixel (h : rect.Bounded) (hk : k < rect.area) :
    vram.checkedGet (Cursor.ofPixel rect k).x (Cursor.ofPixel rect k).y =
      some (vram.getIn rect k) := by
  rw [checkedGet_eq, Cursor.toNat_x h, Cursor.toNat_y h (Nat.le_of_lt hk)]
  rfl

/-- The pixel at a cursor is replaced. -/
theorem checkedPut_ofPixel (h : rect.Bounded) (hk : k < rect.area) (pixel : UInt16) :
    vram.checkedPut (Cursor.ofPixel rect k).x (Cursor.ofPixel rect k).y pixel =
      some (vram.setIn rect k pixel) := by
  rw [checkedPut_eq, Cursor.toNat_x h, Cursor.toNat_y h (Nat.le_of_lt hk)]
  rfl

section Copy

variable {source target : Rect} (hsource : source.Bounded) (htarget : target.Bounded)
  (harea : target.area = source.area)
include hsource htarget harea

/-- A round of the loop over cursors copies a pixel and goes on with the next one. -/
theorem checkedCopy_succ (hk : k < source.area) (limit : Nat) (vram : Vram) :
    checkedCopy (limit + 1) (.ofPixel source k) (.ofPixel target k) vram =
      checkedCopy limit (.ofPixel source (k + 1)) (.ofPixel target (k + 1))
        (vram.setIn target k (vram.getIn source k)) := by
  have hk' : k < target.area := by omega
  have hleft : ¬decide (source.area ≤ k) = true := by
    rw [decide_eq_true_eq]
    omega
  rw [checkedCopy, Cursor.isDone_ofPixel hsource (by omega), if_neg hleft,
    checkedGet_ofPixel vram hsource hk]
  simp only [Option.bind_eq_bind, Option.bind_some]
  rw [checkedPut_ofPixel vram htarget hk', Cursor.checkedNext_ofPixel hsource hk,
    Cursor.checkedNext_ofPixel htarget hk']
  rfl

/-- Copying by cursors is copying by pixel numbers, given enough rounds. -/
theorem checkedCopy_eq (limit count : Nat) (hlimit : count < limit)
    (hcount : k + count = source.area) (vram : Vram) :
    checkedCopy limit (.ofPixel source k) (.ofPixel target k) vram =
      some (copyFrom source target count k vram) := by
  induction limit generalizing count k vram with
  | zero => omega
  | succ limit ih =>
    cases count with
    | zero =>
      rw [checkedCopy, Cursor.isDone_ofPixel hsource (by omega),
        if_pos (decide_eq_true (by omega))]
      rfl
    | succ count =>
      rw [checkedCopy_succ hsource htarget harea (by omega)]
      exact ih count (by omega) (by omega) _

/-- It is not done after as many rounds as pixels are left. -/
theorem checkedCopy_eq_none (limit : Nat) (hlimit : k + limit ≤ source.area) (vram : Vram) :
    checkedCopy limit (.ofPixel source k) (.ofPixel target k) vram = none := by
  induction limit generalizing k vram with
  | zero => rfl
  | succ limit ih =>
    rw [checkedCopy_succ hsource htarget harea (by omega)]
    exact ih (by omega) _

end Copy

/-- The pixels of a fill, in two parts. -/
theorem fillFrom_add (pixel : UInt16) (first second k : Nat) (vram : Vram) :
    fillFrom rect pixel (first + second) k vram =
      fillFrom rect pixel second (k + first) (fillFrom rect pixel first k vram) := by
  induction first generalizing k vram with
  | zero => rw [Nat.zero_add]; rfl
  | succ first ih =>
    rw [Nat.succ_add, fillFrom, ih, fillFrom, Nat.succ_add_eq_add_succ]

/-- The rest of a row is filled. -/
theorem checkedFillRow_eq (pixel : UInt16) (row : Nat) {x y : UInt32} (count done : Nat)
    (hcount : done + count = rect.width) (hx : x.toNat = rect.left + done)
    (hy : y.toNat = rect.top + row) (hright : rect.left + rect.width < 2 ^ 32) (vram : Vram) :
    checkedFillRow pixel y count x vram =
      some (fillFrom rect pixel count (row * rect.width + done) vram) := by
  induction count generalizing x done vram with
  | zero => rfl
  | succ count ih =>
    have hdone : done < rect.width := by omega
    have hcolumn : rect.column (row * rect.width + done) = x.toNat := by
      rw [Rect.column, Nat.mul_comm, Nat.mul_add_mod, Nat.mod_eq_of_lt hdone, hx]
    have hrow : rect.row (row * rect.width + done) = y.toNat := by
      rw [Rect.row, Nat.mul_comm, Nat.mul_add_div (by omega), Nat.div_eq_of_lt hdone, hy,
        Nat.add_zero]
    have hnext : (x + 1).toNat = rect.left + (done + 1) := by
      have hone : (1 : UInt32).toNat = 1 := rfl
      rw [UInt32.toNat_add, hone, hx]
      omega
    rw [checkedFillRow, checkedPut_eq]
    simp only [Option.bind_eq_bind, Option.bind_some]
    rw [ih (done + 1) (by omega) hnext, fillFrom, setIn, hcolumn, hrow, Nat.add_assoc]

/-- The rest of the rows are filled. -/
theorem checkedFillRows_eq (pixel : UInt16) {left width y : UInt32} (count done : Nat)
    (hleft : left.toNat = rect.left) (hwidth : width.toNat = rect.width)
    (hcount : done + count = rect.height) (hy : y.toNat = rect.top + done)
    (hright : rect.left + rect.width < 2 ^ 32) (hbottom : rect.top + rect.height < 2 ^ 32)
    (vram : Vram) :
    checkedFillRows pixel left width count y vram =
      some (fillFrom rect pixel (count * rect.width) (done * rect.width) vram) := by
  induction count generalizing y done vram with
  | zero => rw [Nat.zero_mul]; rfl
  | succ count ih =>
    have hadd : left.toNat + width.toNat < 2 ^ 32 := by omega
    have hlength : (left + width - left).toNat = rect.width := by
      rw [UInt32.add_comm, UInt32.add_sub_cancel]
      exact hwidth
    have hnext : (y + 1).toNat = rect.top + (done + 1) := by
      have hone : (1 : UInt32).toNat = 1 := rfl
      rw [UInt32.toNat_add, hone, hy]
      omega
    rw [checkedFillRows, checkedAdd_eq hadd]
    simp only [Option.bind_eq_bind, Option.bind_some, hlength]
    rw [checkedFillRow_eq pixel done rect.width 0 (by omega) (by omega) hy hright]
    simp only [Option.bind_some]
    rw [ih (done + 1) (by omega) hnext, Nat.succ_mul count, Nat.add_comm (count * _),
      fillFrom_add, Nat.succ_mul done, Nat.add_zero]

/-- Every rectangle can be filled. -/
theorem checkedFill_eq (position size : UInt32) (pixel : UInt16) :
    vram.checkedFill position size pixel =
      some (vram.fill (Rect.ofFillWords position size) pixel) := by
  have hx : (position &&& 0x3f0).toNat ≤ 0x3f0 := by
    rw [UInt32.toNat_and]
    exact Nat.and_le_right
  have hy := toNat_and_row_lt (position >>> 16)
  have hsize := toNat_and_column_lt size
  have hheight := toNat_and_row_lt (size >>> 16)
  have hround : (0xf : UInt32).toNat = 0xf := rfl
  have hsum : ((size &&& 0x3ff) + 0xf).toNat = (size &&& 0x3ff).toNat + 0xf := by
    rw [UInt32.toNat_add, hround]
    omega
  have hwidth : (((size &&& 0x3ff) + 0xf) &&& 0xfffffff0).toNat ≤ (size &&& 0x3ff).toNat + 0xf := by
    rw [UInt32.toNat_and, hsum]
    exact Nat.and_le_left
  have hrow : checkedShiftDown position 16 = some (position >>> 16) := rfl
  have hrows : checkedShiftDown size 16 = some (size >>> 16) := rfl
  rw [checkedFill, hrow, hrows, checkedAdd_eq (by omega)]
  simp only [Option.bind_eq_bind, Option.bind_some]
  rw [checkedAdd_eq (by omega)]
  simp only [Option.bind_some]
  rw [UInt32.add_comm ((position >>> 16) &&& 0x1ff), UInt32.add_sub_cancel]
  have hright : (Rect.ofFillWords position size).left + (Rect.ofFillWords position size).width <
      2 ^ 32 := Nat.lt_of_le_of_lt (Nat.add_le_add hx hwidth) (by omega)
  have hbottom : (Rect.ofFillWords position size).top + (Rect.ofFillWords position size).height <
      2 ^ 32 := Nat.lt_of_lt_of_le (Nat.add_lt_add hy hheight) (by decide)
  have hfill := @checkedFillRows_eq _ pixel (position &&& 0x3f0)
    (((size &&& 0x3ff) + 0xf) &&& 0xfffffff0) ((position >>> 16) &&& 0x1ff)
    ((size >>> 16) &&& 0x1ff).toNat 0 rfl rfl (Nat.zero_add _) rfl hright hbottom vram
  rw [Nat.zero_mul, Nat.mul_comm] at hfill
  exact hfill

end Vram

/-- Every colour has a pixel. -/
theorem checkedPixelOfColour_eq (colour : UInt32) :
    checkedPixelOfColour colour = some (pixelOfColour colour) := rfl

end Playstation
