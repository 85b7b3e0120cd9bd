/-
# One image over another

An image that is laid over another one is placed by its corner, and the corner may be any coordinate:
left of the other image, above it or far beyond it.  What is drawn is drawn where three rectangles
overlap: the place of the image, the bounds of the other one and a clip.

In whole numbers, a pixel lies under the image if it is a pixel of the lower image, its distances from
the corner are those of a pixel of the upper one, and the clip covers it (`LiesUnder`).  These are the
pixels that the overlap covers (`covers_overlap`), each of them is changed by the one pixel that comes
to lie on it, and all others are kept.

The far edges of the place are sums, and so are the sides of the overlap.  So there may be no result
although nothing would be seen of the image: its corner is at the end of the coordinates, or the clip
is inverted from one end to the other (`draw_eq_none`).
-/
import Mathlib.Tactic.ByContra
import Placard.Proofs.Plugin.Drawn
import Placard.Proofs.Raster.Region

namespace Placard

variable {x y : Int64}

/-- The distance of a pixel from a coordinate that is not far beyond it. -/
theorem toInt_ofNat_sub {n : Nat} (hn : n < UInt32.size) (hle : x.toInt ≤ n)
    (hlt : (n : Int) - x.toInt < UInt32.size) : (Int64.ofNat n - x).toInt = n - x.toInt := by
  have hsize : UInt32.size = 4294967296 := rfl
  have hint : (Int64.ofNat n).toInt = n := Int64.toInt_ofNat_of_lt (by omega)
  rw [toInt_sub_eq (by omega) (by omega), hint]

namespace Image

variable {img src out : Image} {clip : Option PixelRect} {place visible : PixelRect}

/-! ## Where the images overlap -/

/-- The pixel in column `px` of row `py` of an image comes to lie under a pixel of the image whose
corner is at `(x, y)`, within the clip. -/
structure LiesUnder (img src : Image) (x y : Int64) (clip : Option PixelRect) (px py : Int) :
    Prop where
  column : 0 ≤ px ∧ px < img.width
  row : 0 ≤ py ∧ py < img.height
  across : 0 ≤ px - x.toInt ∧ px - x.toInt < src.width
  down : 0 ≤ py - y.toInt ∧ py - y.toInt < src.height
  clipped : ∀ c ∈ clip, c.Covers px py

theorem placeAt_eq_some {w h : Nat} (hw : w < UInt32.size) (hh : h < UInt32.size) :
    placeAt x y w h = some place ↔ place.left = x ∧ place.top = y ∧
      place.right.toInt = x.toInt + w ∧ place.bottom.toInt = y.toInt + h := by
  have hsize : UInt32.size = 4294967296 := rfl
  have hwidth : (Int64.ofNat w).toInt = w := Int64.toInt_ofNat_of_lt (by omega)
  have hheight : (Int64.ofNat h).toInt = h := Int64.toInt_ofNat_of_lt (by omega)
  unfold placeAt
  simp only [Option.bind_eq_bind, Option.bind_eq_some_iff, plus?_eq_some, Option.pure_def,
    Option.some.injEq, hwidth, hheight]
  constructor
  · rintro ⟨right, hright, bottom, hbottom, rfl⟩
    exact ⟨rfl, rfl, hright, hbottom⟩
  · rintro ⟨rfl, rfl, hright, hbottom⟩
    exact ⟨place.right, hright, place.bottom, hbottom, rfl⟩

theorem placeAt_eq_none {w h : Nat} (hw : w < UInt32.size) (hh : h < UInt32.size) :
    placeAt x y w h = none ↔ 2 ^ 63 ≤ x.toInt + w ∨ 2 ^ 63 ≤ y.toInt + h := by
  have hx := x.le_toInt
  have hy := y.le_toInt
  constructor
  · intro hnone
    by_contra hlt
    obtain ⟨right, -, hright⟩ := exists_coordinate? (z := x.toInt + w) (by omega) (by omega)
    obtain ⟨bottom, -, hbottom⟩ := exists_coordinate? (z := y.toInt + h) (by omega) (by omega)
    have hplace : placeAt x y w h = some ⟨x, y, right, bottom⟩ :=
      (placeAt_eq_some hw hh).mpr ⟨rfl, rfl, hright, hbottom⟩
    cases hnone.symm.trans hplace
  · intro hge
    cases hplace : placeAt x y w h with
    | none => rfl
    | some place =>
        obtain ⟨-, -, hright, hbottom⟩ := (placeAt_eq_some hw hh).mp hplace
        have hlt := place.right.toInt_lt
        have hlt' := place.bottom.toInt_lt
        omega

theorem overlap?_eq_some : img.overlap? src x y clip = some visible ↔
    ∃ place, placeAt x y src.width src.height = some place ∧
      (place.intersect img.bounds).clipped clip = visible := Option.map_eq_some_iff

/-- What is gone through is what lies under the other image. -/
theorem covers_overlap (hi : img.Small) (hs : src.Small)
    (h : img.overlap? src x y clip = some visible) {px py : Int} :
    visible.Covers px py ↔ LiesUnder img src x y clip px py := by
  obtain ⟨place, hplace, rfl⟩ := overlap?_eq_some.mp h
  obtain ⟨rfl, rfl, hright, hbottom⟩ := (placeAt_eq_some hs.1 hs.2).mp hplace
  rw [PixelRect.covers_clipped, PixelRect.covers_intersect, hi.covers_bounds]
  constructor
  · rintro ⟨⟨⟨h₁, h₂, h₃, h₄⟩, hx₀, hx, hy₀, hy⟩, hclip⟩
    exact ⟨⟨hx₀, hx⟩, ⟨hy₀, hy⟩, by omega, by omega, hclip⟩
  · rintro ⟨⟨hx₀, hx⟩, ⟨hy₀, hy⟩, hacross, hdown, hclip⟩
    exact ⟨⟨⟨by omega, by omega, by omega, by omega⟩, hx₀, hx, hy₀, hy⟩, hclip⟩

theorem overlap_edges (hi : img.Small) (h : img.overlap? src x y clip = some visible) :
    0 ≤ visible.left.toInt ∧ 0 ≤ visible.top.toInt ∧
      visible.right.toInt ≤ img.width ∧ visible.bottom.toInt ≤ img.height := by
  obtain ⟨place, -, rfl⟩ := overlap?_eq_some.mp h
  have hwithin := hi.overlap place
  cases clip with
  | none => exact hwithin
  | some c =>
      generalize place.intersect img.bounds = r at *
      simp only [PixelRect.clipped, PixelRect.intersect, toInt_max, toInt_min]
      omega

theorem LiesUnder.isDegenerate_eq (hi : img.Small) (hs : src.Small)
    (hv : img.overlap? src x y clip = some visible) {px py : Int}
    (h : LiesUnder img src x y clip px py) : visible.isDegenerate = some false := by
  have hsize : UInt32.size = 4294967296 := rfl
  obtain ⟨hleft, htop, hright, hbottom⟩ := overlap_edges hi hv
  obtain ⟨h₁, h₂, h₃, h₄⟩ := (covers_overlap hi hs hv).mpr h
  obtain ⟨hiw, hih⟩ := hi
  rw [PixelRect.isDegenerate_eq_false]
  unfold PixelRect.columns PixelRect.rows
  omega

/-! ## Whether there is a result -/

/-- There is none just if a far edge of the image is no coordinate, or if the overlap is inverted by
so much that its width is none, or its height where the width does not tell. -/
theorem draw_eq_none (hi : img.Small) (hs : src.Small) : img.draw src x y clip = none ↔
    2 ^ 63 ≤ x.toInt + src.width ∨ 2 ^ 63 ≤ y.toInt + src.height ∨
      ∃ visible, img.overlap? src x y clip = some visible ∧
        (visible.columns < -2 ^ 63 ∨ 0 < visible.columns ∧ visible.rows < -2 ^ 63) := by
  have hplace : img.overlap? src x y clip = none ↔ _ :=
    Option.map_eq_none_iff.trans (placeAt_eq_none hs.1 hs.2)
  rw [draw_eq, Option.bind_eq_bind, Option.bind_eq_none_iff, ← or_assoc, ← hplace]
  cases hv : img.overlap? src x y clip with
  | none => exact iff_of_true (fun _ h => (by cases h)) (.inl rfl)
  | some visible =>
      have hsize : UInt32.size = 4294967296 := rfl
      obtain ⟨hleft, htop, hright, hbottom⟩ := overlap_edges hi hv
      obtain ⟨hiw, hih⟩ := hi
      have hnone : visible.isDegenerate = none ↔
          visible.columns < -2 ^ 63 ∨ 0 < visible.columns ∧ visible.rows < -2 ^ 63 := by
        rw [PixelRect.isDegenerate_eq_none]
        unfold PixelRect.IsSide PixelRect.columns PixelRect.rows
        omega
      simp only [Option.some.injEq, forall_eq', reduceCtorEq, false_or, exists_eq_left', ← hnone]
      cases visible.isDegenerate with
      | none => exact iff_of_true rfl rfl
      | some d => cases d <;> exact iff_of_false nofun nofun

/-- Along one side, an overlap is not inverted far if all that overlaps is near enough to zero. -/
theorem overlap_side_ge {a l r : Int} {m n : Nat} (w k : Nat) (ha : a.natAbs ≤ m)
    (hl : l.natAbs ≤ n) (hr : r.natAbs ≤ n) (hm : m ≤ 2 ^ 63) (hn : n ≤ 2 ^ 62)
    (hmn : m + n ≤ 2 ^ 63) : -2 ^ 63 ≤ min (min (a + w) k) r - max (max a 0) l := by
  omega

/-- There is a result if the corner and the clip are near enough to zero. -/
theorem exists_draw {m n : Nat} (hi : img.Small) (hs : src.Small) (hx : Within m x)
    (hy : Within m y) (hc : ∀ c ∈ clip, c.Within n) (hm : m + UInt32.size ≤ 2 ^ 63)
    (hn : n ≤ 2 ^ 62) (hmn : m + n ≤ 2 ^ 63) : ∃ out, img.draw src x y clip = some out := by
  rw [← Option.isSome_iff_exists, ← Option.ne_none_iff_isSome, Ne, draw_eq_none hi hs]
  have hsw := hs.1
  have hsh := hs.2
  unfold Within at hx hy
  rintro (h | h | ⟨visible, hv, h⟩)
  · omega
  · omega
  · obtain ⟨place, hplace, rfl⟩ := overlap?_eq_some.mp hv
    obtain ⟨rfl, rfl, hright, hbottom⟩ := (placeAt_eq_some hs.1 hs.2).mp hplace
    have hbounds : img.bounds.left.toInt = 0 ∧ img.bounds.top.toInt = 0 := ⟨rfl, rfl⟩
    have hwidth : img.bounds.right.toInt = img.width := hi.toInt_width
    have hheight : img.bounds.bottom.toInt = img.height := hi.toInt_height
    unfold PixelRect.columns PixelRect.rows at h
    cases clip with
    | none =>
        simp only [PixelRect.clipped, PixelRect.intersect, toInt_max, toInt_min] at h
        omega
    | some c =>
        obtain ⟨hleft, htop, hright', hbottom'⟩ := hc c rfl
        have hcolumns := overlap_side_ge src.width img.width hx hleft hright' (by omega) hn hmn
        have hrows := overlap_side_ge src.height img.height hy htop hbottom' (by omega) hn hmn
        simp only [PixelRect.clipped, PixelRect.intersect, toInt_max, toInt_min, hbounds, hwidth,
          hheight, hright, hbottom] at h
        rcases h with h | ⟨-, h⟩
        · exact Int.not_lt.mpr hcolumns h
        · exact Int.not_lt.mpr hrows h

/-! ## What there is of it -/

/-- The pixel that comes to lie on another one is there, and it is laid over that one. -/
theorem LiesUnder.layPixel_eq (hi : img.Small) (hs : src.Small) {px py : Nat}
    (h : LiesUnder img src x y clip px py) : ∃ new,
      src.pixel? (px - x.toInt).toNat (py - y.toInt).toNat = some new ∧
        src.layPixel (.ofNat px - x) (.ofNat py - y) = fun old => pixelOver old new := by
  have hsize : UInt32.size = 4294967296 := rfl
  obtain ⟨hiw, hih⟩ := hi
  obtain ⟨hsw, hsh⟩ := hs
  obtain ⟨⟨-, hx⟩, ⟨-, hy⟩, ⟨hx₀, hacross⟩, ⟨hy₀, hdown⟩, -⟩ := h
  have hcolumn : (Int64.ofNat px - x).toNatClampNeg = (px - x.toInt).toNat := by
    rw [← Int64.toNat_toInt, toInt_ofNat_sub (by omega) (by omega) (by omega)]
  have hrow : (Int64.ofNat py - y).toNatClampNeg = (py - y.toInt).toNat := by
    rw [← Int64.toNat_toInt, toInt_ofNat_sub (by omega) (by omega) (by omega)]
  obtain ⟨new, hnew⟩ := Option.isSome_iff_exists.mp
    (src.isSome_pixel? (x := (px - x.toInt).toNat) (y := (py - y.toInt).toNat) (by omega) (by omega))
  refine ⟨new, hnew, funext fun old => ?_⟩
  unfold layPixel
  rw [hcolumn, hrow, hnew]

theorem LiesUnder.pixel?_draw (hi : img.Small) (hs : src.Small) {px py : Nat}
    (h : LiesUnder img src x y clip px py) (hout : img.draw src x y clip = some out) :
    ∃ old new, img.pixel? px py = some old ∧
      src.pixel? (px - x.toInt).toNat (py - y.toInt).toNat = some new ∧
        out.pixel? px py = some (pixelOver old new) := by
  obtain ⟨new, hnew, hlay⟩ := h.layPixel_eq hi hs
  obtain ⟨old, hold⟩ := Option.isSome_iff_exists.mp
    (img.isSome_pixel? (Int.ofNat_lt.mp h.column.2) (Int.ofNat_lt.mp h.row.2))
  refine ⟨old, new, hold, hnew, ?_⟩
  obtain ⟨visible, hv, ⟨hd, -⟩ | ⟨-, rfl⟩⟩ := draw_eq_some.mp hout
  · cases hd.symm.trans (h.isDegenerate_eq hi hs hv)
  · rw [pixel?_updateWithin hi, if_pos ((covers_overlap hi hs hv).mpr h), hlay, hold]
    rfl

theorem pixel?_draw_of_not_covers (hi : img.Small) (hv : img.overlap? src x y clip = some visible)
    (hout : img.draw src x y clip = some out) {px py : Nat} (h : ¬ visible.Covers px py) :
    out.pixel? px py = img.pixel? px py := by
  obtain ⟨visible', hv', ⟨-, rfl⟩ | ⟨-, rfl⟩⟩ := draw_eq_some.mp hout
  · rfl
  · cases hv.symm.trans hv'
    rw [pixel?_updateWithin hi, if_neg h]

theorem pixel?_draw_of_not_liesUnder (hi : img.Small) (hs : src.Small) {px py : Nat}
    (h : ¬ LiesUnder img src x y clip px py) (hout : img.draw src x y clip = some out) :
    out.pixel? px py = img.pixel? px py := by
  obtain ⟨visible, hv, -⟩ := draw_eq_some.mp hout
  exact pixel?_draw_of_not_covers hi hv hout fun hc => h ((covers_overlap hi hs hv).mp hc)

/-- A pixel outside the clip is kept, whatever the images are. -/
theorem pixel?_draw_of_clip (hi : img.Small) {c : PixelRect}
    (hout : img.draw src x y (some c) = some out) {px py : Nat} (h : ¬ c.Covers px py) :
    out.pixel? px py = img.pixel? px py := by
  obtain ⟨visible, hv, -⟩ := draw_eq_some.mp hout
  refine pixel?_draw_of_not_covers hi hv hout fun hcovers => h ?_
  obtain ⟨place, -, rfl⟩ := overlap?_eq_some.mp hv
  exact (PixelRect.covers_clipped.mp hcovers).2 c rfl

/-- A picture keeps all pixels outside its rectangle. -/
theorem pixel?_draw_picture (hi : img.Small) {p : Picture} (h : (p.draw img).1 = .done out)
    {px py : Nat} (hpx : ¬ (p.rect.transform img.width img.height).Covers px py) :
    out.pixel? px py = img.pixel? px py := by
  obtain ⟨raster, box, -, h⟩ := Picture.draw_eq_done.mp h
  obtain ⟨x, ax, y, ay, -, -, h⟩ := Picture.place_eq_some.mp h
  obtain ⟨left, top, -, -, h⟩ := drawAnchored_eq_some.mp h
  exact pixel?_draw_of_clip hi h hpx

/-- Laying an image over another one is a composite of pixels, if it has a result.  There is one just
if the far edges of the image are coordinates and the overlap with the clip is not inverted too far;
for a corner and a clip within `2 ^ 62` of zero, then.  Each pixel that lies under the image is
composited, once, with the pixel that comes to lie on it, unless that one is transparent, and all
others are kept.  The pixels that are gone through are pixels of both images, and their distances from
the corner do not wrap around.  So a picture changes no pixel outside its rectangle. -/
theorem draw_pointwise (hi : img.Small) (hs : src.Small) (x y : Int64) (clip : Option PixelRect) :
    (img.draw src x y clip = none ↔
      2 ^ 63 ≤ x.toInt + src.width ∨ 2 ^ 63 ≤ y.toInt + src.height ∨
        ∃ visible, img.overlap? src x y clip = some visible ∧
          (visible.columns < -2 ^ 63 ∨ 0 < visible.columns ∧ visible.rows < -2 ^ 63)) ∧
      (Within (2 ^ 62) x → Within (2 ^ 62) y → (∀ c ∈ clip, c.Within (2 ^ 62)) →
        ∃ out, img.draw src x y clip = some out) ∧
      (∀ out, img.draw src x y clip = some out → out.sides = img.sides ∧
        (∀ px py : Nat, LiesUnder img src x y clip px py → ∃ old new,
          img.pixel? px py = some old ∧
            src.pixel? (px - x.toInt).toNat (py - y.toInt).toNat = some new ∧
            out.pixel? px py = some (if new.alpha = 0 then old else sourceOver old new new.alpha)) ∧
        ∀ px py : Nat, ¬ LiesUnder img src x y clip px py → out.pixel? px py = img.pixel? px py) ∧
      (∀ visible, img.overlap? src x y clip = some visible → ∀ px py : Int64,
        visible.contains px py = true → LiesUnder img src x y clip px.toInt py.toInt ∧
          (px - x).toInt = px.toInt - x.toInt ∧ (py - y).toInt = py.toInt - y.toInt) ∧
      ∀ (p : Picture) (painted : Image), (p.draw img).1 = .done painted →
        painted.sides = img.sides ∧
          ∀ px py : Nat, ¬ (p.rect.transform img.width img.height).Covers px py →
            painted.pixel? px py = img.pixel? px py := by
  refine ⟨draw_eq_none hi hs, fun hx hy hc => ?_, fun out h => ⟨draw_sides h, fun px py hu => ?_,
    fun px py hu => pixel?_draw_of_not_liesUnder hi hs hu h⟩, fun visible hv px py h => ?_,
    fun p painted h => ⟨Picture.draw_sides h, fun px py => pixel?_draw_picture hi h⟩⟩
  · exact exists_draw hi hs hx hy hc (by decide) (by decide) (by decide)
  · exact hu.pixel?_draw hi hs h
  · have hu := (covers_overlap hi hs hv).mp (PixelRect.contains_iff_covers.mp h)
    obtain ⟨hsw, hsh⟩ := hs
    have hsize : UInt32.size = 4294967296 := rfl
    have hacross := hu.across
    have hdown := hu.down
    exact ⟨hu, toInt_sub_eq (by omega) (by omega), toInt_sub_eq (by omega) (by omega)⟩

/-- Four pixels that hang over the left edge of the image, of which the clip leaves one; and a picture
in the left half of it. -/
theorem draw_pointwise_of_corner :
    let img := Image.filled 3 2 .white
    let src := Image.filled 2 2 .black
    let clip := some ⟨-9, 0, 9, 2⟩
    let p : Picture := { raster := some src, rect := ⟨0, 0, 0.5, 1⟩ }
    img.Small ∧ src.Small ∧ (∃ out, img.draw src (-1) 1 clip = some out ∧ out.sides = (3, 2) ∧
      out.pixel? 0 1 = some .black ∧ out.pixel? 1 1 = some .white) ∧
      img.overlap? src (-1) 1 clip = some ⟨0, 1, 1, 2⟩ ∧ LiesUnder img src (-1) 1 clip 0 1 ∧
      ∃ painted, (p.draw img).1 = .done painted ∧ painted.pixel? 2 1 = some .white := by
  intro img src clip p
  have hi : img.Small := ⟨by decide, by decide⟩
  have hs : src.Small := ⟨by decide, by decide⟩
  obtain ⟨-, hnear, hpixels, hin, hpicture⟩ := draw_pointwise hi hs (-1) 1 clip
  obtain ⟨out, hout⟩ := hnear (by decide) (by decide) (by decide)
  obtain ⟨hsides, hunder, hkept⟩ := hpixels out hout
  have hoverlap : img.overlap? src (-1) 1 clip = some ⟨0, 1, 1, 2⟩ := by decide
  have hcorner : LiesUnder img src (-1) 1 clip 0 1 := (hin _ hoverlap 0 1 (by decide)).1
  have hbeside : ¬ LiesUnder img src (-1) 1 clip (1 : Nat) (1 : Nat) := fun h =>
    absurd h.across.2 (by decide)
  obtain ⟨old, new, hold, hnew, hdraw⟩ := hunder 0 1 hcorner
  obtain rfl : Rgba.white = old := Option.some.inj hold
  obtain rfl : Rgba.black = new := Option.some.inj hnew
  have hpainted : ((p.draw img).1.image?.any fun _ => true) = true := by decide +kernel
  obtain ⟨painted, hp, -⟩ := (Option.any_eq_true _ _).mp hpainted
  replace hp := Drawing.image?_eq_some.mp hp
  have hout' : ¬ (p.rect.transform img.width img.height).Covers (2 : Nat) (1 : Nat) := by
    decide +kernel
  exact ⟨hi, hs, ⟨out, hout, hsides, hdraw.trans (by decide +kernel), hkept 1 1 hbeside⟩, hoverlap,
    hcorner, painted, hp, (hpicture p painted hp).2 2 1 hout'⟩

/-- An image that lies beyond all columns of another one, at the end of the coordinates; and one that
is drawn with a clip from one end of the coordinates to the other, but inverted.  No pixel would have
to be changed, and there is no result. -/
theorem draw_without_result :
    let img := Image.filled 1 1 .white
    let src := Image.filled 1 1 .black
    let clip : PixelRect := ⟨9223372036854775807, 0, -9223372036854775808, 1⟩
    (∀ px py, ¬ LiesUnder img src 9223372036854775807 0 none px py) ∧
      img.draw src 9223372036854775807 0 none = none ∧
      (∀ px py, ¬ LiesUnder img src 0 0 (some clip) px py) ∧ img.draw src 0 0 (some clip) = none := by
  intro img src clip
  refine ⟨fun px py h => ?_, by decide, fun px py h => ?_, by decide⟩
  · have hcolumn := h.column.2
    have hacross := h.across.1
    change px < 1 at hcolumn
    change 0 ≤ px - 9223372036854775807 at hacross
    omega
  · obtain ⟨hleft, hright, -, -⟩ := h.clipped clip rfl
    change 9223372036854775807 ≤ px at hleft
    change px < -9223372036854775808 at hright
    omega

end Image
end Placard
