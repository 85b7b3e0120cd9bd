/-
# How often a pixel of a line is inked

The built-in face draws a line cell by cell, and a character is laid over a pixel if its cell
covers the pixel and it has ink there.  A color that can be seen through shows how often that
happened, so it should happen once at most.  How often it happens is counted by `inkings`, and that
is what drawing comes to (`pixel?_cellStamps`).

The cells of a line need not lie side by side.  A cell is as wide as a glyph, rounded up, but
begins at the nearest column to its place in the line, so the next one may begin before it ends.

| size | width of a cell | begins |
| :-- | :-- | :-- |
| 24 | 12 | 0, 12, 24, 36 |
| 25 | 13 | 0, 13, 25, 38 |

So a pixel may be covered by several cells (`coverings`), and that is how often it is inked at
most: as often by a line of blocks, and never more often (`FontFace.draw_inked`).  For a size that
is a multiple of six the glyphs have a whole width, and their cells lie side by side.
-/
import Mathlib.Data.List.Basic
import Mathlib.Logic.Function.Iterate
import Placard.Proofs.Font.Width
import Placard.Proofs.Number.Nearest
import Placard.Proofs.Raster.Anchor
import Placard.Proofs.Raster.Region

namespace Placard
open Binary

namespace Font

variable {scale x baseline : Float} {color : Rgba} {c : Char} {cs : List Char} {i n px py : Nat}
  {img out : Image}

/-! ## Cells over a pixel -/

/-- The cell of the given number, as far as it lies among the coordinates. -/
def cell (scale x baseline : Float) (i : Nat) : PixelRect where
  left := cellLeft scale x i
  top := cellTop scale baseline
  right := Int64.ofInt
    (min ((cellLeft scale x i).toInt + (cellSize scale).1.toNatClampNeg) coordinateMax)
  bottom := Int64.ofInt
    (min ((cellTop scale baseline).toInt + (cellSize scale).2.toNatClampNeg) coordinateMax)

theorem rect_cellStamp : (cellStamp scale x baseline color c i).rect = cell scale x baseline i := rfl

theorem covers_cell {column row : Int} : (cell scale x baseline i).Covers column row ↔
    ((cellLeft scale x i).toInt ≤ column ∧ column <
      min ((cellLeft scale x i).toInt + (cellSize scale).1.toNatClampNeg) coordinateMax) ∧
    (cellTop scale baseline).toInt ≤ row ∧ row <
      min ((cellTop scale baseline).toInt + (cellSize scale).2.toNatClampNeg) coordinateMax :=
  Stamp.covers_rect (s := cellStamp scale x baseline .black ' ' i)

def covers (scale x baseline : Float) (px py i : Nat) : Bool :=
  (cell scale x baseline i).Covers px py

/-- The character has ink where the cell of its number lies over the pixel. -/
def inks (scale x baseline : Float) (px py : Nat) (entry : Char × Nat) : Bool :=
  covers scale x baseline px py entry.2 &&
    ink entry.1 (glyphPixel scale (px - (cellLeft scale x entry.2).toInt).toNat glyphWidth)
      (glyphPixel scale (py - (cellTop scale baseline).toInt).toNat glyphHeight)

/-- How many of the first cells cover the pixel. -/
def coverings (scale x baseline : Float) (n px py : Nat) : Nat :=
  (List.range n).countP (covers scale x baseline px py)

/-- How many characters of the line have ink on the pixel. -/
def inkings (scale x baseline : Float) (cs : List Char) (px py : Nat) : Nat :=
  cs.zipIdx.countP (inks scale x baseline px py)

/-! ## Drawing -/

theorem toNatClampNeg_lt {c : Int64} : c.toNatClampNeg < 2 ^ 63 := by
  have hlt := c.toInt_lt
  rw [← Int64.toNat_toInt]
  omega

theorem pixel?_cellStamp (hi : img.Small)
    (h : Stamp.draw img (cellStamp scale x baseline color c i) = some out) :
    out.pixel? px py =
      if inks scale x baseline px py (c, i) then (img.pixel? px py).map (blendOver · color 1)
      else img.pixel? px py := by
  rw [Stamp.pixel?_draw hi toNatClampNeg_lt toNatClampNeg_lt h, rect_cellStamp]
  unfold inks covers
  by_cases hcovers : (cell scale x baseline i).Covers px py
  · rw [if_pos hcovers, decide_eq_true hcovers, Bool.true_and]
    dsimp only [cellStamp]
    split
    · rfl
    · exact Option.map_id'
  · rw [if_neg hcovers, decide_eq_false hcovers, Bool.false_and]
    exact (if_neg Bool.false_ne_true).symm

/-- The characters are laid over a pixel one after the other, those that have ink there. -/
theorem pixel?_cellStamps (hi : img.Small)
    (h : (cellStamps scale x baseline color cs i).foldlM Stamp.draw img = some out) :
    out.pixel? px py = (img.pixel? px py).map
      ((blendOver · color 1)^[(cs.zipIdx i).countP (inks scale x baseline px py)]) := by
  induction cs generalizing i img with
  | nil =>
      cases h
      exact Option.map_id'.symm
  | cons c cs ih =>
      obtain ⟨next, hnext, h⟩ := Option.bind_eq_some_iff.mp h
      rw [ih (hi.of_sides (Stamp.draw_sides hnext)) h, pixel?_cellStamp hi hnext,
        List.zipIdx_cons, List.countP_cons]
      split
      · rw [Option.map_map, Function.iterate_succ]
      · rfl

/-! ## How often at most -/

theorem coverings_length : coverings scale x baseline cs.length px py =
    cs.zipIdx.countP (covers scale x baseline px py ∘ Prod.snd) := by
  unfold coverings
  rw [List.range_eq_range', ← List.zipIdx_map_snd, List.countP_map]

theorem inkings_le_coverings : inkings scale x baseline cs px py ≤
    coverings scale x baseline cs.length px py := by
  rw [coverings_length]
  exact List.countP_mono_left fun entry _ h => ((Bool.and_eq_true _ _).mp h).1

theorem ink_block : ∀ column < glyphWidth, ∀ row < glyphHeight, ink '█' column row = true := by
  decide +kernel

theorem glyphPixel_lt {offset size : Nat} (h : 0 < size) :
    glyphPixel scale offset size < size :=
  Nat.lt_of_le_of_lt (Nat.min_le_right _ _) (by omega)

theorem inks_block : inks scale x baseline px py ('█', i) = covers scale x baseline px py i := by
  unfold inks
  dsimp only
  rw [ink_block _ (glyphPixel_lt (by decide)) _ (glyphPixel_lt (by decide)), Bool.and_true]

/-- A line of blocks inks a pixel with every cell that covers it. -/
theorem inkings_blocks : inkings scale x baseline (List.replicate n '█') px py =
    coverings scale x baseline n px py := by
  have hlength : coverings scale x baseline (List.replicate n '█').length px py = _ :=
    coverings_length
  rw [List.length_replicate] at hlength
  rw [hlength]
  refine List.countP_congr fun ⟨c, i⟩ hmem => ?_
  obtain rfl := List.eq_of_mem_replicate (List.fst_mem_of_mem_zipIdx hmem)
  rw [inks_block]
  rfl

/-- No line of so many characters inks a pixel twice just if no two of their cells cover it. -/
theorem forall_inkings_le_one_iff : (∀ text : String, text.toList.length = n →
      inkings scale x baseline text.toList px py ≤ 1) ↔ coverings scale x baseline n px py ≤ 1 := by
  constructor
  · intro h
    have hblocks := h (String.ofList (List.replicate n '█')) (by
      rw [String.toList_ofList, List.length_replicate])
    rwa [String.toList_ofList, inkings_blocks] at hblocks
  · rintro h text rfl
    exact inkings_le_coverings.trans h

theorem countP_range_le_one {p : ℕ → Bool}
    (h : ∀ i j, i < j → j < n → ¬ (p i = true ∧ p j = true)) : (List.range n).countP p ≤ 1 := by
  induction n with
  | zero => exact Nat.zero_le 1
  | succ n ih =>
      rw [List.range_succ, List.countP_append, List.countP_singleton]
      split
      · rename_i hn
        have hzero : (List.range n).countP p = 0 := List.countP_eq_zero.mpr fun i hi hp =>
          h i n (List.mem_range.mp hi) (Nat.lt_succ_self n) ⟨hp, hn⟩
        omega
      · exact ih fun i j hij hj => h i j hij (Nat.lt_succ_of_lt hj)

/-! ## Glyphs of a whole width -/

section
variable {w j : ℕ} {z : ℤ}

theorem abs_place_le (hz : z.natAbs < 2 ^ 50) (hi : i * w < 2 ^ 36) :
    |(z : ℚ) / 2 ^ 16 + (i * w : ℕ)| ≤ ((2 ^ 40 : ℕ) : ℚ) := by
  have hzabs : |(z : ℚ)| ≤ ((2 ^ 50 : ℕ) : ℚ) := abs_intCast_le hz.le
  have hi' : ((i * w : ℕ) : ℚ) ≤ 2 ^ 36 := by exact_mod_cast hi.le
  have hi0 : (0 : ℚ) ≤ (i * w : ℕ) := Nat.cast_nonneg _
  push_cast at hzabs hi' hi0 ⊢
  obtain ⟨hlo, hhi⟩ := abs_le.mp hzabs
  refine abs_le.mpr ⟨?_, ?_⟩
  · linarith
  · linarith

variable (hs : (ofFloat scale).value? = some ((w : ℚ) / 12)) (hw : 0 < w)
include hs hw

theorem toInt_cellWidth (hlt : w < 2 ^ 36) : (cellSize scale).1.toInt = w := by
  have hwidth : (ofFloat (extent glyphWidth * scale)).value? = some ((w : ℤ) : ℚ) := by
    have hr := mul_rounds (extent_value? (n := 12) (by decide)) hs
    rw [show ((12 : ℕ) : ℚ) * (w / 12) = (w : ℤ) by push_cast; ring] at hr
    exact hr.value?_eq (isDouble_intCast (by omega))
  have hrange : max coordinateMin (min coordinateMax w) = w := by
    change max (-2 ^ 63) (min (2 ^ 63 - 1) (w : ℤ)) = w
    omega
  change (toCoordinate .up (extent glyphWidth * scale)).toInt = w
  rw [toCoordinate, toInt_of_value? hwidth, hrange]
  exact Int64.toInt_ofInt_of_le (by omega) (by omega)

variable (hx : (ofFloat x).value? = some ((z : ℚ) / 2 ^ 16)) (hz : z.natAbs < 2 ^ 50)
include hx hz

/-- The place of a cell is exact, if that of the line has few bits after the point. -/
theorem place_value? (hi : i * w < 2 ^ 36) :
    (ofFloat (x + extent i * extent glyphWidth * scale)).value? =
      some ((z : ℚ) / 2 ^ 16 + (i * w : ℕ)) := by
  have hiw : i ≤ i * w := Nat.le_mul_of_pos_right i hw
  have hglyphs := mul_rounds (FontFace.glyphs_value? (n := i) (by omega)) hs
  rw [show ((i * 12 : ℕ) : ℚ) * (w / 12) = (i * w : ℕ) by push_cast; ring] at hglyphs
  have hsum := add_rounds hx (hglyphs.value?_eq (isDouble_natCast (by omega)))
  refine hsum.value?_eq ⟨z + (i * w : ℕ) * 2 ^ 16, -16, by omega, by decide, by decide, ?_⟩
  rw [zpow_neg]
  push_cast
  field_simp
  ring

/-- A cell does not begin before another one has ended. -/
theorem cellLeft_add_le (hij : i < j) (hj : j * w < 2 ^ 36) :
    (cellLeft scale x i).toInt.natAbs ≤ 2 ^ 40 ∧
      (cellLeft scale x i).toInt + w ≤ (cellLeft scale x j).toInt := by
  obtain ⟨d, rfl⟩ := Nat.exists_eq_add_of_lt hij
  have hsum : (i + d + 1) * w = i * w + (d * w + w) := by ring
  have hi : i * w < 2 ^ 36 := by omega
  have hfirst := place_value? hs hw hx hz hi
  have hsecond := place_value? hs hw hx hz hj
  have hbound := natAbs_nearest_le hfirst (abs_place_le hz hi) (by decide)
  rw [hsum, Nat.cast_add (i * w), ← add_assoc] at hsecond
  have hapart := nearest_add_le hfirst hsecond (by omega) (by omega)
  refine ⟨hbound, ?_⟩
  change (nearest _).toInt + _ ≤ (nearest _).toInt
  omega

/-- The cells lie side by side, so a pixel is covered by one of them at most. -/
theorem coverings_le_one (hn : n * w < 2 ^ 36) : coverings scale x baseline n px py ≤ 1 := by
  refine countP_range_le_one fun i j hij hj ⟨hci, hcj⟩ => ?_
  have hjw : j * w < 2 ^ 36 := Nat.lt_of_le_of_lt (Nat.mul_le_mul_right w hj.le) hn
  obtain ⟨hbound, hleft⟩ := cellLeft_add_le hs hw hx hz hij hjw
  have hwj : w ≤ j * w := Nat.le_mul_of_pos_left w (by omega)
  have hwidth := toInt_cellWidth hs hw (by omega)
  obtain ⟨hi, -⟩ := covers_cell.mp (of_decide_eq_true hci)
  obtain ⟨hj, -⟩ := covers_cell.mp (of_decide_eq_true hcj)
  rw [← Int64.toNat_toInt, hwidth] at hi
  omega

end

end Font

/-! ## Lines -/

namespace FontFace
open Font

variable {face : FontFace} {img : Image}

theorem bitmapScale_value? {k : ℕ} (hk : (ofFloat32 face.size).value? = some ((6 * k : ℕ) : ℚ))
    (hlt : k < 2 ^ 53) :
    (ofFloat face.bitmapScale).value? = some (((3 * k : ℕ) : ℚ) / 12) := by
  rw [← value?_widen] at hk
  have hr := div_rounds hk (extent_value? (n := 24) (by decide)) (by norm_num)
  rw [show ((6 * k : ℕ) : ℚ) / (24 : ℕ) = ((3 * k : ℕ) : ℚ) / 12 by push_cast; ring] at hr
  refine hr.value?_eq ⟨k, -2, by omega, by decide, by decide, ?_⟩
  rw [zpow_neg]
  push_cast
  field_simp
  ring

/-- A line in the built-in face is drawn if every character has coordinates wherever it has ink.  To
draw it is to lay the color over each pixel once for every character that has ink there, which has to
be in a cell that covers the pixel.  No line of `n` characters inks a pixel twice just if at most one
of their cells covers it.  That holds of all pixels if the size is a multiple of six and the place of
the line has few bits after the point. -/
theorem draw_inked (hsource : face.source = .bitmap) (hi : img.Small) (x baseline : Float) :
    (∀ (text : String) (color : Rgba),
      ((face.draw img text x baseline color).isSome = true ↔
        ∀ s ∈ cellStamps face.bitmapScale x baseline color text.toList 0, s.MarksInside) ∧
      ∀ out, face.draw img text x baseline color = some out → out.sides = img.sides ∧
        ∀ px py : ℕ, out.pixel? px py = (img.pixel? px py).map
            ((blendOver · color 1)^[inkings face.bitmapScale x baseline text.toList px py]) ∧
          inkings face.bitmapScale x baseline text.toList px py ≤
            coverings face.bitmapScale x baseline text.toList.length px py) ∧
      (∀ n px py : ℕ, (∀ text : String, text.toList.length = n →
          inkings face.bitmapScale x baseline text.toList px py ≤ 1) ↔
        coverings face.bitmapScale x baseline n px py ≤ 1) ∧
      ∀ (k n : ℕ) (z : ℤ), (ofFloat32 face.size).value? = some ((6 * k : ℕ) : ℚ) → 0 < k →
        (ofFloat x).value? = some ((z : ℚ) / 2 ^ 16) → z.natAbs < 2 ^ 50 →
        n * (3 * k) < 2 ^ 36 →
        ∀ px py : ℕ, coverings face.bitmapScale x baseline n px py ≤ 1 := by
  have hstamps (text : String) (color : Rgba) : face.stamps text x baseline color =
      cellStamps face.bitmapScale x baseline color text.toList 0 := by
    unfold stamps
    rw [hsource]
  refine ⟨fun text color => ⟨?_, fun out hout => ⟨draw_sides hout, fun px py =>
    ⟨?_, inkings_le_coverings⟩⟩⟩, fun n px py => forall_inkings_le_one_iff,
    fun k n z hk hk0 hx hz hn px py => ?_⟩
  · rw [draw_isSome, hstamps]
  · unfold draw at hout
    rw [hstamps] at hout
    exact pixel?_cellStamps hi hout
  · rcases Nat.eq_zero_or_pos n with rfl | hn0
    · exact Nat.zero_le 1
    · have hle : 3 * k ≤ n * (3 * k) := Nat.le_mul_of_pos_left _ hn0
      exact coverings_le_one (bitmapScale_value? hk (by omega)) (by omega) hx hz hn

/-- Two blocks of twelve columns that begin at half a pixel. -/
theorem draw_inked_of_blocks :
    let face : FontFace := ⟨.bitmap, 24⟩
    let img := Image.filled 26 1 .transparent
    let color : Rgba := ⟨255, 0, 0, 128⟩
    face.source = .bitmap ∧ img.Small ∧ (ofFloat32 24).value? = some ((6 * 4 : ℕ) : ℚ) ∧
      (ofFloat 0.5).value? = some (((2 ^ 15 : ℤ) : ℚ) / 2 ^ 16) ∧
      (∀ px py : ℕ, coverings face.bitmapScale 0.5 19 2 px py ≤ 1) ∧
      inkings face.bitmapScale 0.5 19 "██".toList 12 0 = 1 ∧
      ∃ out, face.draw img "██" 0.5 19 color = some out ∧ out.pixel? 12 0 = some color := by
  intro face img color
  have hi : img.Small := ⟨by decide, by decide⟩
  have hsize : (ofFloat32 24).value? = some ((6 * 4 : ℕ) : ℚ) := by decide +kernel
  have hx : (ofFloat 0.5).value? = some (((2 ^ 15 : ℤ) : ℚ) / 2 ^ 16) := by decide +kernel
  obtain ⟨hline, -, hwhole⟩ := draw_inked (show face.source = .bitmap from rfl) hi 0.5 19
  obtain ⟨hdrawn, hpixels⟩ := hline "██" color
  obtain ⟨out, hout⟩ := Option.isSome_iff_exists.mp (hdrawn.mpr (by decide +kernel))
  have hone : inkings face.bitmapScale 0.5 19 "██".toList 12 0 = 1 := by decide +kernel
  have hpixel := ((hpixels out hout).2 12 0).1
  rw [hone] at hpixel
  exact ⟨rfl, hi, hsize, hx,
    hwhole 4 2 (2 ^ 15) hsize (by decide) hx (by decide) (by decide), hone,
    out, hout, hpixel.trans (by decide +kernel)⟩

/-- At a size of 25 pixels, the second of three blocks ends in the column where the third one
begins: that column is inked twice, and the one before it once. -/
theorem draw_inked_twice :
    let face : FontFace := ⟨.bitmap, 25⟩
    let img := Image.filled 39 1 .transparent
    let color : Rgba := ⟨255, 0, 0, 128⟩
    face.source = .bitmap ∧ inkings face.bitmapScale 0 20 "███".toList 24 0 = 1 ∧
      inkings face.bitmapScale 0 20 "███".toList 25 0 = 2 ∧
      ∃ out, face.draw img "███" 0 20 color = some out ∧
        out.pixel? 24 0 = some ⟨255, 0, 0, 128⟩ ∧ out.pixel? 25 0 = some ⟨255, 0, 0, 192⟩ := by
  intro face img color
  have hdrawn : ((face.draw img "███" 0 20 color).any fun out => decide (
      out.pixel? 24 0 = some ⟨255, 0, 0, 128⟩ ∧ out.pixel? 25 0 = some ⟨255, 0, 0, 192⟩)) =
      true := by
    decide +kernel
  obtain ⟨out, hout, hpixels⟩ := (Option.any_eq_true _ _).mp hdrawn
  exact ⟨rfl, by decide +kernel, by decide +kernel, out, hout, of_decide_eq_true hpixels⟩

end FontFace
end Placard
