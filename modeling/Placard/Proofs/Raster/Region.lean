/-
# A region, pixel by pixel

Every drawing operation changes the pixels of a region, row after row, and each of them by a function
of its place.  The rows lie one after the other in one array, so which pixel an index belongs to is a
matter of arithmetic; it is settled here once.

| | |
| :-- | :-- |
| a run of pixels in a row | `getElem?_updateRow` |
| rows of such runs | `getElem?_updateRows` |
| a rectangle within the image | `pixel?_updateBlock` |
| any rectangle | `pixel?_updateWithin` |
| a stamp | `Stamp.pixel?_draw` |

The last two speak of columns and rows as whole numbers: a pixel is changed just if the rectangle
covers it (`PixelRect.Covers`), and then it is changed once.
-/
import Placard.Proofs.Geometry
import Placard.Proofs.Raster.Extent

namespace Placard

namespace Image

variable {img : Image} {x y : Nat}

theorem Small.toInt_width (h : img.Small) : (Int64.ofNat img.width).toInt = img.width :=
  Int64.toInt_ofNat_of_lt (Nat.lt_trans h.1 (by decide))

theorem Small.toInt_height (h : img.Small) : (Int64.ofNat img.height).toInt = img.height :=
  Int64.toInt_ofNat_of_lt (Nat.lt_trans h.2 (by decide))

theorem Small.covers_bounds (h : img.Small) {x y : Int} :
    img.bounds.Covers x y ↔ 0 ≤ x ∧ x < img.width ∧ 0 ≤ y ∧ y < img.height := by
  change 0 ≤ x ∧ x < (Int64.ofNat img.width).toInt ∧ 0 ≤ y ∧
    y < (Int64.ofNat img.height).toInt ↔ _
  rw [h.toInt_width, h.toInt_height]

theorem Small.overlap (h : img.Small) (rect : PixelRect) :
    0 ≤ (rect.intersect img.bounds).left.toInt ∧ 0 ≤ (rect.intersect img.bounds).top.toInt ∧
      (rect.intersect img.bounds).right.toInt ≤ img.width ∧
      (rect.intersect img.bounds).bottom.toInt ≤ img.height := by
  have hleft : (rect.intersect img.bounds).left.toInt = max rect.left.toInt 0 := toInt_max
  have htop : (rect.intersect img.bounds).top.toInt = max rect.top.toInt 0 := toInt_max
  have hright : (rect.intersect img.bounds).right.toInt = min rect.right.toInt img.width :=
    toInt_min.trans (congrArg _ h.toInt_width)
  have hbottom : (rect.intersect img.bounds).bottom.toInt = min rect.bottom.toInt img.height :=
    toInt_min.trans (congrArg _ h.toInt_height)
  omega

theorem pixel?_eq_none (h : ¬ (x < img.width ∧ y < img.height)) : img.pixel? x y = none := by
  unfold pixel?
  split
  · rename_i hx
    refine Array.getElem?_eq_none ?_
    have hrow : img.height * img.width ≤ y * img.width :=
      Nat.mul_le_mul_right _ (Nat.not_lt.mp fun hy => h ⟨hx, hy⟩)
    rw [img.size_eq, Nat.mul_comm]
    omega
  · rfl

/-- The index of an entry, when the rows lie one after the other. -/
theorem index_lt {width height : Nat} (hx : x < width) (hy : y < height) :
    y * width + x < width * height := by
  have hrow : (y + 1) * width ≤ height * width := Nat.mul_le_mul_right _ hy
  rw [Nat.add_one_mul] at hrow
  rw [Nat.mul_comm width]
  omega

theorem isSome_pixel? (hx : x < img.width) (hy : y < img.height) : (img.pixel? x y).isSome := by
  have hlt : y * img.width + x < img.pixels.size := img.size_eq ▸ index_lt hx hy
  rw [pixel?, if_pos hx, Array.getElem?_eq_getElem hlt]
  rfl

/-! ## Rows -/

variable {width left count along top : Nat} {pixels : Array Rgba}

theorem getElem?_updateRun {f : Nat → Rgba → Rgba} {index i : Nat} :
    (updateRun f count along index pixels)[i]? =
      if index ≤ i ∧ i < index + count then pixels[i]?.map (f (along + (i - index)))
      else pixels[i]? := by
  induction count generalizing along index pixels with
  | zero => rw [updateRun, if_neg (by omega)]
  | succ count ih =>
      rw [updateRun, ih, Array.getElem?_modify]
      by_cases hi : index = i
      · subst hi
        rw [if_neg (by omega), if_pos rfl, if_pos (by omega), Nat.sub_self, Nat.add_zero]
      · rw [if_neg hi]
        by_cases hrun : index + 1 ≤ i ∧ i < index + 1 + count
        · rw [if_pos hrun, if_pos (by omega)]
          congr 2
          omega
        · rw [if_neg hrun, if_neg (by omega)]

/-- The indices of a run within a row belong to columns of that row. -/
theorem index_mem_run (hx : x < width) (hcount : left + count ≤ width) :
    (top * width + left ≤ y * width + x ∧ y * width + x < top * width + left + count) ↔
      y = top ∧ left ≤ x ∧ x < left + count := by
  rcases Nat.lt_trichotomy y top with h | rfl | h
  · have hrow : (y + 1) * width ≤ top * width := Nat.mul_le_mul_right width h
    rw [Nat.add_one_mul] at hrow
    omega
  · omega
  · have hrow : (top + 1) * width ≤ y * width := Nat.mul_le_mul_right width h
    rw [Nat.add_one_mul] at hrow
    omega

theorem getElem?_updateRow {f : Nat → Rgba → Rgba} (hx : x < width)
    (hcount : left + count ≤ width) :
    (updateRun f count 0 (top * width + left) pixels)[y * width + x]? =
      if y = top ∧ left ≤ x ∧ x < left + count then pixels[y * width + x]?.map (f (x - left))
      else pixels[y * width + x]? := by
  rw [getElem?_updateRun]
  simp only [index_mem_run hx hcount]
  split
  · rename_i h
    rw [h.1, Nat.zero_add, Nat.add_sub_add_left]
  · rfl

theorem getElem?_updateRows {f : Nat → Nat → Rgba → Rgba} {rows : Nat} (hx : x < width)
    (hcount : left + count ≤ width) :
    (updateRows f width count rows along (top * width + left) pixels)[y * width + x]? =
      if left ≤ x ∧ x < left + count ∧ top ≤ y ∧ y < top + rows then
        pixels[y * width + x]?.map (f (along + (y - top)) (x - left))
      else pixels[y * width + x]? := by
  induction rows generalizing along top pixels with
  | zero => rw [updateRows, if_neg (by omega)]
  | succ rows ih =>
      have hnext : top * width + left + width = (top + 1) * width + left := by
        rw [Nat.add_one_mul]
        omega
      rw [updateRows, hnext, ih, getElem?_updateRow hx hcount]
      -- the row is the first one, one of those that follow, or none of them
      by_cases hy : y = top
      · rw [if_neg (by omega)]
        by_cases hrun : left ≤ x ∧ x < left + count
        · rw [if_pos ⟨hy, hrun⟩, if_pos (by omega), hy, Nat.sub_self, Nat.add_zero]
        · rw [if_neg (fun h => hrun h.2), if_neg (by omega)]
      · rw [if_neg (fun h : y = top ∧ _ => hy h.1)]
        by_cases hrows : left ≤ x ∧ x < left + count ∧ top + 1 ≤ y ∧ y < top + 1 + rows
        · rw [if_pos hrows, if_pos (by omega), Nat.add_right_comm, Nat.add_assoc]
          congr 3
          omega
        · rw [if_neg hrows, if_neg (by omega)]

/-! ## Rectangles of an image -/

theorem pixel?_updateBlock {height : Nat} {f : Nat → Nat → Rgba → Rgba}
    (h : left + width ≤ img.width) : (img.updateBlock left top width height f).pixel? x y =
      if left ≤ x ∧ x < left + width ∧ top ≤ y ∧ y < top + height then
        (img.pixel? x y).map (f (y - top) (x - left))
      else img.pixel? x y := by
  unfold pixel? updateBlock
  dsimp only
  by_cases hx : x < img.width
  · rw [if_pos hx, if_pos hx, getElem?_updateRows hx h, Nat.zero_add]
  · rw [if_neg hx, if_neg hx, Option.map_none, ite_self]

theorem advance_ofNat {edge : Int64} (h₀ : 0 ≤ edge.toInt) (hle : edge.toInt ≤ x)
    (hx : x < 2 ^ 63) : edge + .ofNat (x - edge.toNatClampNeg) = .ofNat x := by
  have hint : (Int64.ofNat (x - edge.toNatClampNeg)).toInt = (x - edge.toNatClampNeg : Nat) :=
    Int64.toInt_ofNat_of_lt (by omega)
  have hedge : edge.toInt.toNat = edge.toNatClampNeg := Int64.toNat_toInt edge
  rw [← Int64.toInt_inj, toInt_add_eq (by omega) (by omega), hint, Int64.toInt_ofNat_of_lt hx]
  omega

/-- The pixels that a rectangle covers are changed, and no others. -/
theorem pixel?_updateWithin (h : img.Small) {rect : PixelRect} {f : Int64 → Int64 → Rgba → Rgba} :
    (img.updateWithin rect f).pixel? x y =
      if rect.Covers x y then (img.pixel? x y).map (f (.ofNat x) (.ofNat y))
      else img.pixel? x y := by
  have hcovers : (rect.intersect img.bounds).Covers x y ↔
      rect.Covers x y ∧ x < img.width ∧ y < img.height := by
    rw [PixelRect.covers_intersect, h.covers_bounds]
    exact and_congr_right' (by omega)
  by_cases hin : x < img.width ∧ y < img.height
  · have hx : x < 2 ^ 63 := Nat.lt_trans hin.1 (Nat.lt_trans h.1 (by decide))
    have hy : y < 2 ^ 63 := Nat.lt_trans hin.2 (Nat.lt_trans h.2 (by decide))
    rw [and_iff_left hin] at hcovers
    simp only [← hcovers]
    unfold updateWithin
    dsimp only
    split
    · rename_i hne
      obtain ⟨hleft, htop, hright, hbottom⟩ := h.overlap rect
      generalize rect.intersect img.bounds = r at *
      rw [Int64.lt_iff_toInt_lt, Int64.lt_iff_toInt_lt] at hne
      have hl := Int64.toNat_toInt r.left
      have ht := Int64.toNat_toInt r.top
      unfold PixelRect.columns PixelRect.rows
      rw [pixel?_updateBlock (by omega)]
      by_cases hc : r.Covers x y
      · obtain ⟨h₁, h₂, h₃, h₄⟩ := hc
        rw [if_pos (by omega), if_pos ⟨h₁, h₂, h₃, h₄⟩, advance_ofNat hleft h₁ hx,
          advance_ofNat htop h₃ hy]
      · rw [if_neg hc, if_neg fun hb => hc (by unfold PixelRect.Covers; omega)]
    · rename_i hempty
      refine (if_neg fun hc => hempty ?_).symm
      rw [Int64.lt_iff_toInt_lt, Int64.lt_iff_toInt_lt]
      unfold PixelRect.Covers at hc
      omega
  · have hsides : (img.updateWithin rect f).sides = img.sides := updateWithin_sides
    obtain ⟨hw, hh⟩ := Prod.mk.inj hsides
    rw [pixel?_eq_none hin, pixel?_eq_none (by rw [hw, hh]; exact hin), Option.map_none, ite_self]

end Image

/-! ## Stamps -/

namespace Stamp

variable {img out : Image} {s : Stamp}

theorem covers_rect {x y : Int} : s.rect.Covers x y ↔
    (s.left.toInt ≤ x ∧ x < min (s.left.toInt + s.width) coordinateMax) ∧
      s.top.toInt ≤ y ∧ y < min (s.top.toInt + s.height) coordinateMax := by
  have hmax : coordinateMax = 2 ^ 63 - 1 := rfl
  have hleft := s.left.le_toInt
  have htop := s.top.le_toInt
  have hright : s.rect.right.toInt = min (s.left.toInt + s.width) coordinateMax :=
    Int64.toInt_ofInt_of_le (by omega) (by omega)
  have hbottom : s.rect.bottom.toInt = min (s.top.toInt + s.height) coordinateMax :=
    Int64.toInt_ofInt_of_le (by omega) (by omega)
  unfold PixelRect.Covers
  rw [hright, hbottom, and_assoc]
  exact Iff.rfl

/-- The distance of a pixel from an edge, in the columns or rows of the stamp. -/
theorem distance_eq {a : Int64} {n size : Nat} (hsize : size < 2 ^ 63) (hle : a.toInt ≤ n)
    (hlt : (n : Int) < min (a.toInt + size) coordinateMax) :
    (Int64.ofNat n - a).toNatClampNeg = (n - a.toInt).toNat := by
  have hmax : coordinateMax = 2 ^ 63 - 1 := rfl
  have hn : (Int64.ofNat n).toInt = n := Int64.toInt_ofNat_of_lt (by omega)
  rw [← Int64.toNat_toInt, toInt_sub_eq (by omega) (by omega), hn]

/-- The pixels that a stamp covers become what its marks make of them, and all others are kept. -/
theorem pixel?_draw (hi : img.Small) (hw : s.width < 2 ^ 63) (hh : s.height < 2 ^ 63)
    (h : Stamp.draw img s = some out) {px py : Nat} : out.pixel? px py =
      if s.rect.Covers px py then (img.pixel? px py).map
        ((s.mark? (px - s.left.toInt).toNat (py - s.top.toInt).toNat).getD id)
      else img.pixel? px py := by
  obtain ⟨-, rfl⟩ := draw_eq_some.mp h
  rw [Image.pixel?_updateWithin hi]
  by_cases hcovers : s.rect.Covers px py
  · obtain ⟨⟨hleft, hright⟩, htop, hbottom⟩ := covers_rect.mp hcovers
    rw [if_pos hcovers, if_pos hcovers, distance_eq hw hleft hright, distance_eq hh htop hbottom]
  · rw [if_neg hcovers, if_neg hcovers]

end Stamp

end Placard
