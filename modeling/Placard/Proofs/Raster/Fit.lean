/-
# How an image meets its box

A clipped image lies within its box and a cropped one covers it, and both touch it: one side is
that of the box, and the other one follows from the proportions (`FitMode.Fitted`).  Which side is
computed is decided by a comparison of proportions, and then rounding moves the computed side by up
to half a pixel.  That never moves it past the box, since the side that it is compared with is a
whole number itself.

An image that has been fitted stays as it is when it is fitted again (`FitMode.target_target`).
After rounding its proportions are others, and the comparison may come out the other way; but then
the side that was computed is that of the box, and both ways lead to the box.

Both hold of exact quotients, and of the floating numbers that images are resized with.
-/
import Placard.Proofs.Raster.Extent
import Placard.Proofs.Raster.Proportion

namespace Placard
open Proportion

namespace FitMode

/-- How a side of a fitted image meets that of its box. -/
def Meets (mode : FitMode) (side boxSide : ℕ) : Prop :=
  match mode with
  | clip => side ≤ boxSide
  | crop => boxSide ≤ side
  | stretch => side = boxSide

/-- An image of the first size has been fitted into a box, which has given it the last size. -/
structure Fitted (slack : ℚ) (mode : FitMode) (source box size : ℕ × ℕ) : Prop where
  across : mode.Meets size.1 box.1
  down : mode.Meets size.2 box.2
  width_pos : 1 ≤ size.1
  height_pos : 1 ≤ size.2
  /-- One side is that of the box, and the other one keeps the proportions. -/
  touches : mode ≠ .stretch →
    size.1 = box.1 ∧ Follows slack (box.1 * source.2 / source.1) size.2 ∨
    size.2 = box.2 ∧ Follows slack (box.2 * source.1 / source.2) size.1

variable {α : Type} [Proportion α] {unit : ℚ} {mode : FitMode} {a b w h n : ℕ}

/-! ## The side that is computed -/

/-- The width is what is computed, for an image of the first proportion in a box of the second. -/
def computesWidth (mode : FitMode) (image box : α) : Bool :=
  match mode with
  | clip => below image box
  | crop => below box image
  | stretch => false

theorem target_eq (ha : IsSide a) (hb : IsSide b) (hw : IsSide w) (hh : IsSide h)
    (hmode : mode ≠ .stretch) : mode.target α a b w h =
      if mode.computesWidth (share α a b) (share α w h) then
        (max (nearestSize (times (ofSize h) (share α a b))) 1, h)
      else (w, max (nearestSize (quotient (ofSize w) (share α a b))) 1) := by
  have hw0 := hw.pos
  have hh0 := hh.pos
  have hraised (width : Bool) (x y : ℕ) :
      (max (if width then (x, h) else (w, y)).1 1, max (if width then (x, h) else (w, y)).2 1) =
        if width then (max x 1, h) else (w, max y 1) := by
    cases width with
    | true => exact Prod.ext rfl (Nat.max_eq_left hh0)
    | false => exact Prod.ext (Nat.max_eq_left hw0) rfl
  unfold target
  dsimp only
  rw [if_neg (by omega), if_neg (by omega), if_neg (by omega), Nat.max_eq_left ha.pos,
    Nat.max_eq_left hb.pos]
  cases mode with
  | stretch => exact absurd rfl hmode
  | clip => exact hraised _ _ _
  | crop => exact hraised _ _ _

theorem target_stretch (hw : IsSide w) (hh : IsSide h) : stretch.target α a b w h = (w, h) := by
  have hw0 := hw.pos
  have hh0 := hh.pos
  unfold target
  dsimp only
  rw [if_neg (by omega), if_neg (by omega), if_neg (by omega), Nat.max_eq_left hw0,
    Nat.max_eq_left hh0]

/-- What was compared decides how the computed side meets that of the box. -/
theorem meets_of_computesWidth [Accurate α unit] (ha : IsSide a) (hb : IsSide b) (hw : IsSide w)
    (hh : IsSide h) (hc : mode.computesWidth (share α a b) (share α w h) = true) :
    mode.Meets (nearestSize (times (ofSize h) (share α a b))) w := by
  cases mode with
  | clip => exact times_le ha hb hw hh (not_below_of_below ha hb hw hh hc)
  | crop => exact le_times ha hb hw hh (not_below_of_below hw hh ha hb hc)
  | stretch => cases hc

theorem meets_of_not_computesWidth [Accurate α unit] (ha : IsSide a) (hb : IsSide b)
    (hw : IsSide w) (hh : IsSide h) (hmode : mode ≠ .stretch)
    (hc : mode.computesWidth (share α a b) (share α w h) = false) :
    mode.Meets (nearestSize (quotient (ofSize w) (share α a b))) h := by
  cases mode with
  | clip => exact quotient_le ha hb hw hh hc
  | crop => exact le_quotient ha hb hw hh hc
  | stretch => exact absurd rfl hmode

/-- A side that is raised to one meets that of the box as before. -/
theorem Meets.raised (h : mode.Meets n a) (hmode : mode ≠ .stretch) (ha : IsSide a) :
    mode.Meets (max n 1) a := by
  cases mode with
  | clip => exact Nat.max_le.mpr ⟨h, ha.pos⟩
  | crop => exact Nat.le_trans h (Nat.le_max_left n 1)
  | stretch => exact absurd rfl hmode

theorem meets_self : mode.Meets n n := by
  cases mode with
  | clip => exact Nat.le_refl n
  | crop => exact Nat.le_refl n
  | stretch => rfl

/-- An image that is put into a box of two sides is fitted into it. -/
theorem target_fitted [Accurate α unit] (ha : IsSide a) (hb : IsSide b) (hw : IsSide w)
    (hh : IsSide h) : mode.Fitted (2 ^ 34 * unit) (a, b) (w, h) (mode.target α a b w h) := by
  by_cases hmode : mode = .stretch
  · subst hmode
    rw [target_stretch hw hh]
    exact ⟨rfl, rfl, hw.pos, hh.pos, fun h => absurd rfl h⟩
  · rw [target_eq ha hb hw hh hmode]
    cases hc : mode.computesWidth (share α a b) (share α w h) with
    | true =>
        obtain ⟨v, hv, hnear⟩ := times_near (α := α) ha hb hh
        rw [if_pos rfl]
        exact ⟨(meets_of_computesWidth ha hb hw hh hc).raised hmode hw, meets_self,
          Nat.le_max_right _ _, hh.pos, fun _ => .inr ⟨rfl, follows_of_near hv hnear⟩⟩
    | false =>
        obtain ⟨v, hv, hnear⟩ := quotient_near (α := α) ha hb hw
        rw [if_neg Bool.false_ne_true]
        exact ⟨meets_self, (meets_of_not_computesWidth ha hb hw hh hmode hc).raised hmode hh,
          hw.pos, Nat.le_max_right _ _, fun _ => .inl ⟨rfl, follows_of_near hv hnear⟩⟩

/-- An image that is put into a box of two sides is fitted into it.  With exact quotients the side
that is computed is one of the nearest to the exact one, and with floating numbers it is but for a
small part of a pixel. -/
theorem target_meets_box (mode : FitMode) (ha : IsSide a) (hb : IsSide b) (hw : IsSide w)
    (hh : IsSide h) :
    mode.Fitted 0 (a, b) (w, h) (mode.target ℚ a b w h) ∧
      mode.Fitted (1 / 2 ^ 17) (a, b) (w, h) (mode.target Float a b w h) := by
  have hexact : mode.Fitted (2 ^ 34 * 0) (a, b) (w, h) (mode.target ℚ a b w h) :=
    target_fitted ha hb hw hh
  have hfloat : mode.Fitted (2 ^ 34 * (1 / 2 ^ 51)) (a, b) (w, h) (mode.target Float a b w h) :=
    target_fitted ha hb hw hh
  rw [mul_zero] at hexact
  rw [show (2 : ℚ) ^ 34 * (1 / 2 ^ 51) = 1 / 2 ^ 17 by norm_num] at hfloat
  exact ⟨hexact, hfloat⟩

/-- The exact height is 49 and a half, and goes up to the height of the box. -/
theorem target_meets_box_of_half :
    IsSide 200 ∧ IsSide 99 ∧ IsSide 100 ∧ IsSide 50 ∧ clip.target ℚ 200 99 100 50 = (100, 50) ∧
      clip.Fitted 0 (200, 99) (100, 50) (100, 50) ∧
      clip.Fitted (1 / 2 ^ 17) (200, 99) (100, 50) (clip.target Float 200 99 100 50) := by
  have ha : IsSide 200 := ⟨by decide, by decide⟩
  have hb : IsSide 99 := ⟨by decide, by decide⟩
  have hw : IsSide 100 := ⟨by decide, by decide⟩
  have hh : IsSide 50 := ⟨by decide, by decide⟩
  have htarget : clip.target ℚ 200 99 100 50 = (100, 50) := by decide +kernel
  obtain ⟨hexact, hfloat⟩ := target_meets_box .clip ha hb hw hh
  rw [htarget] at hexact
  exact ⟨ha, hb, hw, hh, htarget, hexact, hfloat⟩

/-! ## Fitting again -/

theorem target_zero (ha : IsSide a) (hb : IsSide b) : mode.target α a b 0 0 = (a, b) :=
  Prod.ext (Nat.max_eq_left ha.pos) (Nat.max_eq_left hb.pos)

theorem target_width_zero (ha : IsSide a) (hb : IsSide b) (hh : IsSide h) :
    mode.target α a b 0 h = (max (nearestSize (times (ofSize h) (share α a b))) 1, h) := by
  have hh0 := hh.pos
  unfold target
  dsimp only
  rw [if_neg (by omega), if_pos rfl, Nat.max_eq_left ha.pos, Nat.max_eq_left hb.pos,
    Nat.max_eq_left hh0]
  rfl

theorem target_height_zero (ha : IsSide a) (hb : IsSide b) (hw : IsSide w) :
    mode.target α a b w 0 = (w, max (nearestSize (quotient (ofSize w) (share α a b))) 1) := by
  have hw0 := hw.pos
  unfold target
  dsimp only
  rw [if_neg (by omega), if_neg (by omega), if_pos rfl, Nat.max_eq_left ha.pos,
    Nat.max_eq_left hb.pos, Nat.max_eq_left hw0]
  rfl

theorem isSide_raised [Accurate α unit] (x : α) : IsSide (max (nearestSize x) 1) :=
  ⟨Nat.le_max_right _ _, Nat.max_lt.mpr ⟨Accurate.nearestSize_lt x, by decide⟩⟩

/-- A width that meets that of the box is computed again unless it is that of the box. -/
theorem computesWidth_again [Accurate α unit] (hn : IsSide n) (hw : IsSide w) (hh : IsSide h)
    (hmeets : mode.Meets n w)
    (hc : mode.computesWidth (share α n h) (share α w h) = false) : n = w := by
  refine Decidable.byContradiction fun hne => ?_
  cases mode with
  | clip =>
      have hlt : n < w := Nat.lt_of_le_of_ne hmeets hne
      cases hc.symm.trans (below_of_width hn hw hh hlt)
  | crop =>
      have hlt : w < n := Nat.lt_of_le_of_ne hmeets (Ne.symm hne)
      cases hc.symm.trans (below_of_width hw hn hh hlt)
  | stretch => exact hne hmeets

/-- With the width of the box, the width is not computed. -/
theorem not_computesWidth_again [Accurate α unit] (hn : IsSide n) (hw : IsSide w) (hh : IsSide h)
    (hmeets : mode.Meets n h) : mode.computesWidth (share α w n) (share α w h) = false := by
  rcases Nat.lt_trichotomy n h with hlt | rfl | hgt
  · have hb := below_of_height (α := α) hw hn hh hlt
    cases mode with
    | clip => exact not_below_of_below hw hh hw hn hb
    | crop => exact absurd hmeets (Nat.not_le.mpr hlt)
    | stretch => rfl
  · cases mode with
    | clip => exact below_self hw hn
    | crop => exact below_self hw hn
    | stretch => rfl
  · have hb := below_of_height (α := α) hw hh hn hgt
    cases mode with
    | clip => exact absurd hmeets (Nat.not_le.mpr hgt)
    | crop => exact not_below_of_below hw hn hw hh hb
    | stretch => rfl

/-- A size that has been computed for a box of two sides is computed for it again. -/
theorem target_again [Accurate α unit] (ha : IsSide a) (hb : IsSide b) (hw : IsSide w)
    (hh : IsSide h) (hmode : mode ≠ .stretch) :
    let size := mode.target α a b w h
    mode.target α size.1 size.2 w h = size := by
  dsimp only
  rw [target_eq ha hb hw hh hmode]
  cases hc : mode.computesWidth (share α a b) (share α w h) with
  | true =>
      have hmeets := (meets_of_computesWidth ha hb hw hh hc).raised hmode hw
      have hn := isSide_raised (times (ofSize h) (share α a b))
      rw [if_pos rfl]
      generalize max (nearestSize (times (ofSize h) (share α a b))) 1 = n at hmeets hn
      dsimp only
      rw [target_eq hn hh hw hh hmode]
      cases hagain : mode.computesWidth (share α n h) (share α w h) with
      | true => rw [if_pos rfl, times_self hn hh, Nat.max_eq_left hn.pos]
      | false =>
          obtain rfl := computesWidth_again hn hw hh hmeets hagain
          rw [if_neg Bool.false_ne_true, quotient_self hn hh, Nat.max_eq_left hh.pos]
  | false =>
      have hmeets := (meets_of_not_computesWidth ha hb hw hh hmode hc).raised hmode hh
      have hn := isSide_raised (quotient (ofSize w) (share α a b))
      rw [if_neg Bool.false_ne_true]
      generalize max (nearestSize (quotient (ofSize w) (share α a b))) 1 = n at hmeets hn
      dsimp only
      rw [target_eq hw hn hw hh hmode, not_computesWidth_again hn hw hh hmeets,
        if_neg Bool.false_ne_true, quotient_self hw hn, Nat.max_eq_left hn.pos]

/-- A size that has been computed for a box is computed for it again, whether or not the box has
both sides. -/
theorem target_target [Accurate α unit] (ha : IsSide a) (hb : IsSide b) (hw : w < UInt32.size)
    (hh : h < UInt32.size) :
    let size := mode.target α a b w h
    mode.target α size.1 size.2 w h = size := by
  rcases Nat.eq_zero_or_pos w with rfl | hw0
  · rcases Nat.eq_zero_or_pos h with rfl | hh0
    · dsimp only
      rw [target_zero ha hb, target_zero ha hb]
    · have hn := isSide_raised (times (ofSize h) (share α a b))
      dsimp only
      rw [target_width_zero ha hb ⟨hh0, hh⟩]
      dsimp only
      rw [target_width_zero hn ⟨hh0, hh⟩ ⟨hh0, hh⟩, times_self hn ⟨hh0, hh⟩, Nat.max_assoc,
        Nat.max_self]
  · rcases Nat.eq_zero_or_pos h with rfl | hh0
    · have hn := isSide_raised (quotient (ofSize w) (share α a b))
      dsimp only
      rw [target_height_zero ha hb ⟨hw0, hw⟩]
      dsimp only
      rw [target_height_zero ⟨hw0, hw⟩ hn ⟨hw0, hw⟩, quotient_self ⟨hw0, hw⟩ hn, Nat.max_assoc,
        Nat.max_self]
    · by_cases hmode : mode = .stretch
      · subst hmode
        dsimp only
        rw [target_stretch ⟨hw0, hw⟩ ⟨hh0, hh⟩, target_stretch ⟨hw0, hw⟩ ⟨hh0, hh⟩]
      · exact target_again ha hb ⟨hw0, hw⟩ ⟨hh0, hh⟩ hmode

end FitMode

/-! ## Images -/

namespace Image
open FitMode

variable {img : Image} {mode : FitMode} {w h : ℕ}

/-- The image fitted into a box, with proportions computed in the given numbers. -/
def resizeBy (α : Type) [Proportion α] (img : Image) (mode : FitMode) (width height : ℕ) : Image :=
  let size := mode.target α img.width img.height width height
  img.resizeTo size.1 size.2

theorem resizeBy_float : img.resizeBy Float mode w h = img.resize mode w h := rfl

theorem resizeTo_self {size : ℕ × ℕ} (hsize : img.sides = size) :
    img.resizeTo size.1 size.2 = img := by
  subst hsize
  exact if_pos ⟨rfl, rfl⟩

theorem resizeBy_sides {α : Type} [Proportion α] :
    (img.resizeBy α mode w h).sides = mode.target α img.width img.height w h :=
  resizeTo_sides (Nat.le_max_right _ 1) (Nat.le_max_right _ 1)

/-- An image has the size that is computed for it again. -/
theorem resizeBy_resizeBy {α : Type} [Proportion α] {unit : ℚ} [Accurate α unit]
    (hi : IsSide img.width) (hj : IsSide img.height) (hw : w < UInt32.size)
    (hh : h < UInt32.size) :
    (img.resizeBy α mode w h).resizeBy α mode w h = img.resizeBy α mode w h := by
  have hsides : (img.resizeBy α mode w h).sides = mode.target α img.width img.height w h :=
    resizeBy_sides
  have hagain := @target_target α _ unit mode _ _ _ _ _ hi hj hw hh
  rw [← hsides] at hagain
  generalize img.resizeBy α mode w h = fitted at hagain ⊢
  exact resizeTo_self hagain.symm

/-- To fit an image again does nothing: the size that has been computed for a box, with or without
a side of zero, is computed for it again, and an image of that size is kept pixel for pixel. -/
theorem resize_resize (mode : FitMode) (hi : IsSide img.width) (hj : IsSide img.height)
    (hw : w < UInt32.size) (hh : h < UInt32.size) :
    let size := mode.target ℚ img.width img.height w h
    mode.target ℚ size.1 size.2 w h = size ∧
      (img.resizeBy ℚ mode w h).resizeBy ℚ mode w h = img.resizeBy ℚ mode w h ∧
      (img.resize mode w h).resize mode w h = img.resize mode w h := by
  refine ⟨target_target hi hj hw hh, resizeBy_resizeBy hi hj hw hh, ?_⟩
  rw [← resizeBy_float, ← resizeBy_float]
  exact resizeBy_resizeBy hi hj hw hh

/-- An image of three by two pixels is narrower than a box of two by one, so its width is computed,
and goes up to that of the box.  What is left is no narrower than the box, and its height is
computed. -/
theorem resize_resize_of_narrow :
    let img : Image := ⟨3, 2, #[.white, .black, .white, .black, .white, .black], rfl⟩
    IsSide img.width ∧ IsSide img.height ∧ clip.target ℚ 3 2 2 1 = (2, 1) ∧
      clip.computesWidth (share ℚ 3 2) (share ℚ 2 1) = true ∧
      clip.computesWidth (share ℚ 2 1) (share ℚ 2 1) = false ∧
      (img.resize .clip 2 1).resize .clip 2 1 = img.resize .clip 2 1 := by
  intro img
  have hi : IsSide img.width := ⟨by decide, by decide⟩
  have hj : IsSide img.height := ⟨by decide, by decide⟩
  obtain ⟨-, -, hagain⟩ := resize_resize .clip hi hj (w := 2) (h := 1) (by decide) (by decide)
  exact ⟨hi, hj, by decide +kernel, by decide +kernel, by decide +kernel, hagain⟩

end Image
end Placard
