/-
# Where a stretched picture is painted

A stretched picture is as large as its rectangle, so one would have it lie exactly on it.  It does
wherever its corner is the corner of the rectangle.  But the corner is not taken from there: it is
computed from the middle, or from a margin, and the size of the picture, and it may come to lie beside
that of the rectangle.

| alignment | the corner is moved |
| :-- | :-- |
| an edge | not at all |
| the middle | by one pixel, if the edges have a sum that is odd and below zero (`beside`) |
| a margin | by at most one column, if the margin is not a multiple of the width (`across`) |

The first is a division that goes towards zero, the second a product of floating numbers that is cut
off.  A moved picture leaves a column or a row of its rectangle as it was (`draw_stretched`).  Far from
zero the corner may be no coordinate, and then nothing is drawn.
-/
import Placard.Proofs.Plugin.Current
import Placard.Proofs.Plugin.Near
import Placard.Proofs.Raster.Anchor

namespace Placard
open Binary

variable {canvas : Image}

/-! ## A picture and its rectangle -/

/-- The rectangle has `w` columns and `h` rows, and they are sizes of 32 bits. -/
structure PixelRect.Measures (r : PixelRect) (w h : Nat) : Prop where
  columns : r.columns = w
  rows : r.rows = h
  width_pos : 0 < w
  height_pos : 0 < h
  width_lt : w < UInt32.size
  height_lt : h < UInt32.size

namespace PixelRect.Measures

variable {r : PixelRect} {w h : Nat}

theorem isDegenerate_eq (hr : r.Measures w h) : r.isDegenerate = some false := by
  obtain ⟨hw, hh, hw0, hh0, hwlt, hhlt⟩ := hr
  have hsize : UInt32.size = 4294967296 := rfl
  rw [PixelRect.isDegenerate_eq_false]
  omega

theorem toInt_columns (hr : r.Measures w h) : (Int64.ofInt r.columns).toInt = w := by
  have hsize : UInt32.size = 4294967296 := rfl
  have hlt := hr.width_lt
  rw [hr.columns]
  exact Int64.toInt_ofInt_of_le (by omega) (by omega)

theorem width_eq (hr : r.Measures w h) : r.width = some (Int64.ofInt r.columns) :=
  width_eq_some.mpr (hr.toInt_columns.trans hr.columns.symm)

theorem exists_height (hr : r.Measures w h) : ∃ c, r.height = some c ∧ c.toInt = h := by
  have hsize : UInt32.size = 4294967296 := rfl
  have hlt := hr.height_lt
  obtain ⟨c, hc, hint⟩ := exists_coordinate? (z := (h : Int)) (by omega) (by omega)
  exact ⟨c, height_eq_some.mpr (hint.trans hr.rows.symm), hint⟩

end PixelRect.Measures

/-- How far the middle of two edges, less half of their distance, lies from the first one. -/
def beside (a b : Int64) : Int :=
  if a.toInt + b.toInt < 0 ∧ (a.toInt + b.toInt) % 2 = 1 then 1 else 0

/-- Halves of sums go towards zero, those of sides go down. -/
theorem middle_eq {a b sum c : Int64} {n : Nat} (hsum : plus? a b = some sum)
    (hn : b.toInt - a.toInt = n) (hlt : n < UInt32.size)
    (hc : minus? (sum / 2) (truncated (0.5 * extent n)) = some c) :
    c.toInt = a.toInt + beside a b := by
  rw [minus?_eq_some.mp hc, truncated_half hlt, toInt_half, plus?_eq_some.mp hsum]
  unfold beside
  by_cases hneg : a.toInt + b.toInt < 0
  · have htdiv : (a.toInt + b.toInt).tdiv 2 = -(-(a.toInt + b.toInt) / 2) := by
      rw [← Int.tdiv_eq_ediv_of_nonneg (by omega), Int.neg_tdiv, neg_neg]
    rw [htdiv]
    split
    · omega
    · omega
  · rw [Int.tdiv_eq_ediv_of_nonneg (by omega), if_neg fun h => hneg h.1]
    omega

namespace Picture

variable {p : Picture} {r : PixelRect} {raster fitted out : Image}

/-- How far to the right of its rectangle a picture is painted that is as wide as it. -/
def across (p : Picture) (r : PixelRect) : Int :=
  let part := ofCoordinate p.x / ofCoordinate (Int64.ofInt r.columns)
  let size := extent r.columns.toNat
  match p.halign with
  | .left | .right => 0
  | .center => beside r.left r.right
  | .leftMargin => p.x.toInt - (truncated (part * size)).toInt
  | .rightMargin => r.columns - p.x.toInt - (truncated ((1 - part) * size)).toInt

/-- How far below its rectangle a picture is painted that is as high as it. -/
def down (p : Picture) (r : PixelRect) : Int :=
  match p.valign with
  | .top | .bottom => 0
  | .middle => beside r.top r.bottom

theorem side_mod {c : Int64} {n : Nat} (h : c.toInt = n) : side c = n % UInt32.size := by
  have hc : c.toUInt64.toNat = n := by
    rw [← Int.ofNat_inj, toUInt64_of_nonneg (fun hneg => ?_), h]
    rw [Int64.lt_iff_toInt_lt, h] at hneg
    exact absurd hneg (Int.not_lt.mpr (Int.natCast_nonneg n))
  unfold side
  rw [UInt64.toNat_toUInt32, hc]

theorem side_eq {c : Int64} {n : Nat} (h : c.toInt = n) (hn : n < UInt32.size) : side c = n :=
  (side_mod h).trans (Nat.mod_eq_of_lt hn)

theorem truncated_none {n : Nat} (hn : n < UInt32.size) : (truncated (0 * extent n)).toInt = 0 := by
  have hzero : (ofFloat 0).value? = some ((0 : ℤ) : ℚ) := by decide +kernel
  have hpart := truncated_part_intCast hzero hn (by rw [Int.zero_mul]; decide)
  rwa [Int.zero_mul] at hpart

theorem truncated_all {n : Nat} (hn : n < UInt32.size) : (truncated (1 * extent n)).toInt = n := by
  have hsize : UInt32.size = 4294967296 := rfl
  have hone : (ofFloat 1).value? = some ((1 : ℤ) : ℚ) := by decide +kernel
  have hpart := truncated_part_intCast hone hn (by omega)
  rwa [Int.one_mul] at hpart

variable {w h : Nat} {x y left top : Int64} {ax ay : Float}

theorem corner_across (hr : r.Measures w h) (ha : p.horizontalAnchor r = some (x, ax))
    (hl : minus? x (truncated (ax * extent w)) = some left) :
    left.toInt = r.left.toInt + p.across r := by
  have hcolumns : r.right.toInt - r.left.toInt = w := hr.columns
  unfold horizontalAnchor at ha
  rw [hr.width_eq] at ha
  unfold across
  rw [hr.columns] at ha ⊢
  rw [Int.toNat_natCast]
  rw [minus?_eq_some] at hl
  cases hp : p.halign with
  | left =>
      rw [hp] at ha
      cases ha
      rw [hl, truncated_none hr.width_lt]
      rfl
  | center =>
      rw [hp] at ha
      obtain ⟨sum, hsum, ha⟩ := Option.bind_eq_some_iff.mp ha
      cases ha
      exact middle_eq hsum hr.columns hr.width_lt (minus?_eq_some.mpr hl)
  | right =>
      rw [hp] at ha
      cases ha
      rw [hl, truncated_all hr.width_lt]
      dsimp only
      omega
  | leftMargin =>
      rw [hp] at ha
      obtain ⟨sum, hsum, ha⟩ := Option.bind_eq_some_iff.mp ha
      cases ha
      rw [hl, plus?_eq_some.mp hsum]
      dsimp only
      omega
  | rightMargin =>
      rw [hp] at ha
      obtain ⟨rest, hrest, ha⟩ := Option.bind_eq_some_iff.mp ha
      cases ha
      rw [hl, minus?_eq_some.mp hrest]
      dsimp only
      omega

theorem corner_down (hr : r.Measures w h) (hy : p.y = 0)
    (ha : p.verticalAnchor r = some (y, ay))
    (ht : minus? y (truncated (ay * extent h)) = some top) :
    top.toInt = r.top.toInt + p.down r := by
  have hrows : r.bottom.toInt - r.top.toInt = h := hr.rows
  unfold verticalAnchor at ha
  unfold down
  rw [minus?_eq_some] at ht
  cases hp : p.valign with
  | top =>
      rw [hp] at ha
      cases ha
      rw [ht, truncated_none hr.height_lt]
      rfl
  | middle =>
      rw [hp, hy] at ha
      obtain ⟨sum, hsum, ha⟩ := Option.bind_eq_some_iff.mp ha
      obtain ⟨moved, hmoved, ha⟩ := Option.bind_eq_some_iff.mp ha
      cases ha
      have hsame : y.toInt = (sum / 2).toInt := (plus?_eq_some.mp hmoved).trans (Int.add_zero _)
      rw [Int64.toInt_inj.mp hsame] at ht
      exact middle_eq hsum hr.rows hr.height_lt (minus?_eq_some.mpr ht)
  | bottom =>
      rw [hp] at ha
      cases ha
      rw [ht, truncated_all hr.height_lt]
      dsimp only
      omega

/-! ## How far a margin moves a picture -/

theorem natAbs_sub_le {z t : Int} (h : t = z ∨ t = z - z.sign) : (z - t).natAbs ≤ 1 := by
  have hsign := Int.sign_trichotomy z
  omega

/-- A margin that is not too large moves a picture by at most one column. -/
theorem natAbs_across_le (hr : r.Measures w h) (hx : Within (2 ^ 48) p.x) :
    (p.across r).natAbs ≤ 1 := by
  have hsize : UInt32.size = 4294967296 := rfl
  have hwidth := hr.toInt_columns
  have hlt := hr.width_lt
  rw [hr.columns] at hwidth
  unfold across
  rw [hr.columns, Int.toNat_natCast]
  cases p.halign with
  | left => exact Nat.zero_le 1
  | center =>
      change (beside r.left r.right).natAbs ≤ 1
      unfold beside
      split
      · exact Nat.le_refl 1
      · exact Nat.zero_le 1
  | right => exact Nat.zero_le 1
  | leftMargin =>
      obtain ⟨a, ha, hnear⟩ := margin_near hx hwidth hr.width_pos hlt
      exact natAbs_sub_le
        (truncated_part_beside ha hlt (Nat.le_trans hx (by decide)) (hnear.trans (by norm_num)))
  | rightMargin =>
      obtain ⟨a, ha, hnear⟩ := rest_near hx hwidth hr.width_pos hlt
      unfold Within at hx
      exact natAbs_sub_le (truncated_part_beside ha hlt (by omega) hnear)

/-- A margin of whole widths does not move a picture. -/
theorem across_eq_zero (hr : r.Measures w h) (hx : Within (2 ^ 48) p.x) (hp : p.KeepsMargin)
    (hdvd : (w : Int) ∣ p.x.toInt) : p.across r = 0 := by
  have hsize : UInt32.size = 4294967296 := rfl
  have hwidth := hr.toInt_columns
  have hlt := hr.width_lt
  rw [hr.columns] at hwidth
  obtain ⟨z, hz⟩ := hdvd
  rw [Int.mul_comm] at hz
  have hvalue := margin_value? hx hwidth hr.width_pos hlt hz
  unfold Within at hx
  unfold across
  rw [hr.columns, Int.toNat_natCast]
  rcases hp with hp | hp
  · rw [hp]
    have hpart := truncated_part_intCast hvalue hlt (by omega)
    dsimp only
    rw [hpart, hz, Int.sub_self]
  · rw [hp]
    have hzle : z.natAbs ≤ 2 ^ 48 := by
      refine Nat.le_trans ?_ hx
      rw [hz, Int.natAbs_mul, Int.natAbs_natCast]
      exact Nat.le_mul_of_pos_right _ hr.width_pos
    have hrest : (w : Int) - p.x.toInt = (1 - z) * w := by
      rw [hz, Int.sub_mul, Int.one_mul]
    have hpart := truncated_part_intCast (rest_value? hvalue hzle) hlt (by
      rw [Int.sub_mul, Int.one_mul]
      omega)
    dsimp only
    rw [hpart, hrest, Int.sub_self]

/-- What a picture is moved by to the left is little more than its width or its margin. -/
theorem within_moved (hr : r.Measures w h) (hx : p.KeepsMargin → Within (2 ^ 48) p.x)
    (ha : p.horizontalAnchor r = some (x, ax)) : Within (2 ^ 61) (truncated (ax * extent w)) := by
  have hlt := hr.width_lt
  by_cases hp : p.KeepsMargin
  · have hacross := natAbs_across_le hr (hx hp)
    have hsize : UInt32.size = 4294967296 := rfl
    have hx := hx hp
    unfold across at hacross
    unfold horizontalAnchor at ha
    rw [hr.width_eq] at ha
    rw [hr.columns] at ha hacross
    rw [Int.toNat_natCast] at hacross
    unfold Within at hx ⊢
    rcases hp with hp | hp
    · rw [hp] at ha hacross
      obtain ⟨sum, -, ha⟩ := Option.bind_eq_some_iff.mp ha
      cases ha
      dsimp only at hacross
      omega
    · rw [hp] at ha hacross
      obtain ⟨rest, -, ha⟩ := Option.bind_eq_some_iff.mp ha
      cases ha
      dsimp only at hacross
      omega
  · have hpart : Bounded (1 : ℕ) ax := by
      unfold horizontalAnchor at ha
      cases hh : p.halign with
      | left =>
          rw [hh] at ha
          cases ha
          exact bounded_zero (by norm_num)
      | center =>
          rw [hh] at ha
          obtain ⟨sum, -, ha⟩ := Option.bind_eq_some_iff.mp ha
          cases ha
          exact bounded_half (by norm_num)
      | right =>
          rw [hh] at ha
          cases ha
          exact bounded_one (by norm_num)
      | leftMargin => exact absurd (.inl hh) hp
      | rightMargin => exact absurd (.inr hh) hp
    exact (within_part hpart hlt (by decide)).mono (by decide)

/-! ## Stretched pictures -/

theorem resize_stretch_sides (raster : Image) (hw : 0 < w) (hh : 0 < h) :
    (raster.resize .stretch w h).sides = (w, h) := by
  have htarget : FitMode.stretch.target Float raster.width raster.height w h = (w, h) := by
    unfold FitMode.target
    dsimp only
    rw [if_neg (by omega), if_neg (by omega), if_neg (by omega)]
    exact Prod.ext (Nat.max_eq_left hw) (Nat.max_eq_left hh)
  unfold Image.resize
  rw [htarget]
  exact Image.resizeTo_sides hw hh

/-- A stretched picture that is no product is fitted into its rectangle. -/
theorem draw_fitted (hk : p.Kept) (hraster : p.raster = some raster) (hmode : p.mode = .stretch)
    (hprod : p.isProduct = false) (hrect : p.rect.transform canvas.width canvas.height = r)
    (hr : r.Measures w h) :
    (p.draw canvas).1 = .ofImage? (p.place canvas (raster.resize .stretch w h) r) := by
  obtain ⟨c, hheight, hc⟩ := hr.exists_height
  have hbox : p.box raster r = some (w, h) := by
    refine box_eq_some.mpr ⟨_, c, hr.width_eq, hheight, ?_⟩
    rw [side_eq hr.toInt_columns hr.width_lt, side_eq hc hr.height_lt, hprod]
    exact (if_neg fun hp => Bool.false_ne_true hp.1).symm
  have hplan : p.plan (p.rect.transform canvas.width canvas.height) =
      some (.ok (raster, w, h)) := by
    rw [hrect]
    exact plan_eq_ok.mpr ⟨hr.isDegenerate_eq, hraster, hbox⟩
  rw [draw_of_plan hk hplan, hmode, hrect]

/-- A picture that is as large as its rectangle lies `across` and `down` from it. -/
theorem place_corner (hr : r.Measures w h) (hy : p.y = 0) (hf : fitted.sides = (w, h))
    (hplace : p.place canvas fitted r = some out) : ∃ left top : Int64,
      left.toInt = r.left.toInt + p.across r ∧ top.toInt = r.top.toInt + p.down r ∧
        canvas.draw fitted left top (some r) = some out := by
  obtain ⟨x, ax, y, ay, hx, hy', hdrawn⟩ := place_eq_some.mp hplace
  obtain ⟨left, top, hleft, htop, hdrawn⟩ := Image.drawAnchored_eq_some.mp hdrawn
  obtain ⟨hw, hh⟩ := Prod.mk.inj hf
  rw [hw] at hleft
  rw [hh] at htop
  exact ⟨left, top, corner_across hr hx hleft, corner_down hr hy hy' htop, hdrawn⟩

/-- A stretched picture that is no product is fit to be drawn, and it is drawn if its rectangle and its
margin are near enough to zero.  Then it is painted over its rectangle, moved by `across` and `down`:
each pixel of the canvas that lies under the picture so moved, within the rectangle, is composited with
the pixel that comes to lie on it, and all others are kept.  So where the picture is not moved, it lies
exactly on its rectangle.  A margin moves it by at most one column, and by none if it is a multiple of
the width. -/
theorem draw_stretched {assets : AssetSource} {uses : List PluginUse} {d plugin : Plugin}
    (hd : d.Unloaded) (hp : d.configure assets = .ok plugin)
    (hq : plugin.chain assets uses = .ok (.image p)) (hraster : p.raster = some raster)
    (hmode : p.mode = .stretch) (hprod : p.isProduct = false) (hy : p.y = 0) (hc : canvas.Small)
    (hrect : p.rect.transform canvas.width canvas.height = r) (hr : r.Measures w h) :
    (raster.resize .stretch w h).sides = (w, h) ∧ (∀ e, (p.draw canvas).1 ≠ .failed e) ∧
      (r.Within (2 ^ 61) → (p.KeepsMargin → Within (2 ^ 48) p.x) →
        ∃ painted, (p.draw canvas).1 = .done painted) ∧
      (∀ painted, (p.draw canvas).1 = .done painted → painted.sides = canvas.sides ∧
        ∃ left top : Int64,
          left.toInt = r.left.toInt + p.across r ∧ top.toInt = r.top.toInt + p.down r ∧
          (∀ px py : Nat, canvas.LiesUnder (raster.resize .stretch w h) left top (some r) px py →
            ∃ old new, canvas.pixel? px py = some old ∧
              (raster.resize .stretch w h).pixel? (px - left.toInt).toNat (py - top.toInt).toNat =
                some new ∧
              painted.pixel? px py = some (pixelOver old new)) ∧
          (∀ px py : Nat, ¬ canvas.LiesUnder (raster.resize .stretch w h) left top (some r) px py →
            painted.pixel? px py = canvas.pixel? px py) ∧
          (p.across r = 0 → p.down r = 0 → ∀ px py : Nat, px < canvas.width → py < canvas.height →
            r.Covers px py → ∃ old new, canvas.pixel? px py = some old ∧
              (raster.resize .stretch w h).pixel? (px - r.left.toInt).toNat
                (py - r.top.toInt).toNat = some new ∧
              painted.pixel? px py = some (pixelOver old new))) ∧
      (Within (2 ^ 48) p.x → (p.across r).natAbs ≤ 1) ∧
      (Within (2 ^ 48) p.x → p.KeepsMargin → (w : Int) ∣ p.x.toInt → p.across r = 0) := by
  have hk : p.Kept := Picture.Current.kept
    (foldlM_keeps (Plugin.Current assets) (fun _ _ _ => Plugin.use_current)
      (Plugin.configure_current hd hp) hq)
  have hdraw := draw_fitted hk hraster hmode hprod hrect hr
  have hsides := resize_stretch_sides raster hr.width_pos hr.height_pos
  generalize raster.resize .stretch w h = fitted at hdraw hsides ⊢
  obtain ⟨hfw, hfh⟩ := Prod.mk.inj hsides
  have hf : fitted.Small := ⟨hfw ▸ hr.width_lt, hfh ▸ hr.height_lt⟩
  refine ⟨hsides, fun e he => ?_, fun hnear hx => ?_, fun painted hdone => ⟨draw_sides hdone, ?_⟩,
    natAbs_across_le hr, across_eq_zero hr⟩
  · exact Drawing.ofImage?_ne_failed _ e (hdraw.symm.trans he)
  · obtain ⟨out, hout⟩ := exists_place hc hf hnear (fun hp => (hx hp).mono (by decide))
      (fun _ => by rw [hy]; decide) fun x ax hax => by
        rw [hfw]
        exact within_moved hr hx hax
    exact ⟨out, by rw [hdraw, hout]; rfl⟩
  · rw [hdraw, Drawing.ofImage?_eq_done] at hdone
    obtain ⟨left, top, hleft, htop, hdrawn⟩ := place_corner hr hy hsides hdone
    refine ⟨left, top, hleft, htop, fun px py hu => hu.pixel?_draw hc hf hdrawn,
      fun px py hu => Image.pixel?_draw_of_not_liesUnder hc hf hu hdrawn,
      fun hacross hdown px py hpx hpy hin => ?_⟩
    rw [hacross, Int.add_zero] at hleft
    rw [hdown, Int.add_zero] at htop
    obtain ⟨h₁, h₂, h₃, h₄⟩ := id hin
    have hcolumns : r.right.toInt - r.left.toInt = w := hr.columns
    have hrows : r.bottom.toInt - r.top.toInt = h := hr.rows
    have hclipped : ∀ c ∈ some r, c.Covers px py := fun c hclip => by
      cases hclip
      exact hin
    have hu : canvas.LiesUnder fitted left top (some r) px py :=
      ⟨by omega, by omega, by omega, by omega, hclipped⟩
    rw [← hleft, ← htop]
    exact hu.pixel?_draw hc hf hdrawn

/-- A picture of five columns whose rectangle begins three columns to the left of the canvas.  It is
painted one column further to the right. -/
theorem draw_stretched_of_odd :
    let strip : Image := ⟨5, 1, #[.white, .white, .white, .black, .white], rfl⟩
    let source : AssetSource := .ofPictures [("a", strip)]
    let declared : Plugin := .image { image := "a", mode := .stretch, rect := ⟨-0.75, 0, 0.5, 1⟩ }
    let canvas := Image.filled 4 1 .white
    let r : PixelRect := ⟨-3, 0, 2, 1⟩
    ∃ plugin p painted, declared.Unloaded ∧ declared.configure source = .ok plugin ∧
      plugin.chain source [.draw canvas] = .ok (.image p) ∧ p.raster = some strip ∧
      p.mode = .stretch ∧ p.isProduct = false ∧ p.y = 0 ∧ canvas.Small ∧
      p.rect.transform canvas.width canvas.height = r ∧ r.Measures 5 1 ∧
      r.Within (2 ^ 61) ∧ (p.draw canvas).1 = .done painted ∧ p.across r = 1 ∧
      painted.pixel? 0 0 = some .white ∧ painted.pixel? 1 0 = some .black := by
  intro strip source declared canvas r
  have hgiven : ((declared.configure source).toOption.any fun plugin =>
      (plugin.chain source [.draw canvas]).toOption.any fun p => p.picture?.any fun p =>
        decide (p.raster = some strip ∧ p.mode = .stretch ∧ p.isProduct = false ∧ p.y = 0 ∧
          p.rect.transform canvas.width canvas.height = r ∧ p.halign = .center ∧
          p.across r = 1 ∧ p.down r = 0)) =
      true := by
    decide +kernel
  obtain ⟨plugin, hp, hgiven⟩ := any_toOption.mp hgiven
  obtain ⟨p, hq, hgiven⟩ := any_toOption.mp hgiven
  obtain ⟨p, hpicture, hgiven⟩ := (Option.any_eq_true _ _).mp hgiven
  rw [Plugin.picture?_eq_some.mp hpicture] at hq
  obtain ⟨hraster, hmode, hprod, hy, hrect, hcenter, hacross, hdown⟩ := of_decide_eq_true hgiven
  have hd : declared.Unloaded := rfl
  have hc : canvas.Small := ⟨by decide, by decide⟩
  have hr : r.Measures 5 1 := ⟨by decide, by decide, by decide, by decide, by decide, by decide⟩
  have hnear : r.Within (2 ^ 61) := by decide
  obtain ⟨hsides, -, hdrawn, hpixels, -⟩ :=
    draw_stretched hd hp hq hraster hmode hprod hy hc hrect hr
  obtain ⟨painted, hdone⟩ := hdrawn hnear fun hm => by
    unfold KeepsMargin at hm
    rw [hcenter] at hm
    exact absurd hm (by decide)
  obtain ⟨-, left, top, hleft, htop, hunder, -⟩ := hpixels painted hdone
  rw [hacross] at hleft
  rw [hdown] at htop
  change left.toInt = -2 at hleft
  change top.toInt = 0 at htop
  obtain ⟨hw, hh⟩ := Prod.mk.inj hsides
  have hlies {px : Nat} (hpx : px < 2) :
      canvas.LiesUnder (strip.resize .stretch 5 1) left top (some r) px (0 : Nat) := by
    refine ⟨⟨by omega, ?_⟩, by decide, ?_, ?_, fun c hclip => ?_⟩
    · change (px : Int) < 4
      omega
    · rw [hw, hleft]
      omega
    · rw [hh, htop]
      omega
    · cases hclip
      exact ⟨by change (-3 : Int) ≤ px; omega, by change (px : Int) < 2; omega, by decide, by decide⟩
  obtain ⟨_, _, hold₀, hnew₀, hdraw₀⟩ := hunder 0 0 (hlies (by decide))
  obtain ⟨_, _, hold₁, hnew₁, hdraw₁⟩ := hunder 1 0 (hlies (by decide))
  rw [hleft, htop] at hnew₀ hnew₁
  obtain rfl := Option.some.inj hold₀
  obtain rfl := Option.some.inj hold₁
  obtain rfl := Option.some.inj (Eq.trans (by decide +kernel) hnew₀ : some Rgba.white = _)
  obtain rfl := Option.some.inj (Eq.trans (by decide +kernel) hnew₁ : some Rgba.black = _)
  exact ⟨plugin, p, painted, hd, hp, hq, hraster, hmode, hprod, hy, hc, hrect, hr, hnear, hdone,
    hacross, hdraw₀.trans (by decide +kernel), hdraw₁.trans (by decide +kernel)⟩

/-- A margin of one column in a rectangle of 49 columns moves a picture by one column, and so does the
middle of a rectangle whose edges have a sum that is odd and below zero: the first column that the
canvas has of the rectangle is left as it was, or has the pixel of another column. -/
theorem draw_stretched_beside_rect :
    let strip : Image := ⟨5, 1, #[.white, .white, .white, .black, .white], rfl⟩
    let source : AssetSource := .ofPictures [("a", .filled 49 1 .black), ("b", strip)]
    (∃ p painted, configure
        { image := "a", mode := .stretch, halign := .leftMargin, x := 1 } source = .ok p ∧
      p.isProduct = false ∧ p.rect.transform 49 1 = ⟨0, 0, 49, 1⟩ ∧
      (p.draw (.filled 49 1 .white)).1 = .done painted ∧
      ((Image.filled 49 1 .black).resize .stretch 49 1).pixel? (0 - 0) (0 - 0) = some .black ∧
      pixelOver .white .black = .black ∧ painted.pixel? 0 0 = some .white) ∧
    ∃ p painted, configure
        { image := "b", mode := .stretch, rect := ⟨-0.75, 0, 0.5, 1⟩ } source = .ok p ∧
      p.isProduct = false ∧ p.rect.transform 4 1 = ⟨-3, 0, 2, 1⟩ ∧
      (p.draw (.filled 4 1 .white)).1 = .done painted ∧
      (strip.resize .stretch 5 1).pixel? (0 + 3) (0 - 0) = some .black ∧
      painted.pixel? 0 0 = some .white := by
  intro strip source
  have hmargin : ((configure { image := "a", mode := .stretch, halign := .leftMargin, x := 1 }
      source).toOption.any fun p => (p.draw (.filled 49 1 .white)).1.image?.any fun painted =>
        decide (p.isProduct = false ∧ p.rect.transform 49 1 = ⟨0, 0, 49, 1⟩ ∧
          painted.pixel? 0 0 = some .white)) = true := by
    decide +kernel
  have hmiddle : ((configure { image := "b", mode := .stretch, rect := ⟨-0.75, 0, 0.5, 1⟩ }
      source).toOption.any fun p => (p.draw (.filled 4 1 .white)).1.image?.any fun painted =>
        decide (p.isProduct = false ∧ p.rect.transform 4 1 = ⟨-3, 0, 2, 1⟩ ∧
          painted.pixel? 0 0 = some .white)) = true := by
    decide +kernel
  obtain ⟨p, hp, hmargin⟩ := any_toOption.mp hmargin
  obtain ⟨painted, hdraw, hmargin⟩ := (Option.any_eq_true _ _).mp hmargin
  rw [Drawing.image?_eq_some] at hdraw
  obtain ⟨hprod, hrect, hpixel⟩ := of_decide_eq_true hmargin
  obtain ⟨p', hp', hmiddle⟩ := any_toOption.mp hmiddle
  obtain ⟨painted', hdraw', hmiddle⟩ := (Option.any_eq_true _ _).mp hmiddle
  rw [Drawing.image?_eq_some] at hdraw'
  obtain ⟨hprod', hrect', hpixel'⟩ := of_decide_eq_true hmiddle
  exact ⟨⟨p, painted, hp, hprod, hrect, hdraw, by decide +kernel, by decide +kernel, hpixel⟩,
    p', painted', hp', hprod', hrect', hdraw', by decide +kernel, hpixel'⟩

end Picture
end Placard
