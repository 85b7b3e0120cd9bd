/-
# The box of a picture

A picture is fitted into a box, and that is its rectangle.  The picture of a product has a box of
its own instead, unless its raster is as large as the rectangle already.  That is the rule
(`ruledBox`), and a rectangle that is not degenerate gives a box with two sides by it.

The sides of a rectangle have 64 bits and those of a box have 32, and nothing stands between them:
of a side, what is left over by `2 ^ 32` becomes that of the box (`box_eq`).

| the rectangle | the box |
| :-- | :-- |
| both sides are below `2 ^ 32` | that of the rule |
| a product whose raster is not as large as what is left over | that of the rule |
| a product whose raster has the size of its own box | that of the rule |
| anything else | another one (`box_rule`) |

A side of which nothing is left over is taken as one that is to follow from the proportions.
-/
import Mathlib
import Placard.Proofs.Plugin.Placed

namespace Placard

/-! ## Letter case -/

theorem toLower_eq_iff {c d : Char} (hd : d.isLower = true) :
    c.toLower = d ↔ c = d ∨ c = d.toUpper := by
  have hlow : d.toLower = d := Char.toLower_eq_of_not_isUpper (Char.not_isUpper_of_isLower hd)
  constructor
  · rintro rfl
    by_cases hc : c.isUpper = true
    · rw [Char.toUpper_toLower_eq_toUpper,
        Char.toUpper_eq_of_not_isLower (Char.not_isLower_of_isUpper hc)]
      exact .inr rfl
    · exact .inl (Char.toLower_eq_of_not_isUpper hc).symm
  · rintro (rfl | rfl)
    · exact hlow
    · rw [Char.toLower_toUpper_eq_toLower, hlow]

/-- The letters are those of the word, each of them small or capital. -/
def SpellsInAnyCase (cs word : List Char) : Prop :=
  List.Forall₂ (fun c d => c = d ∨ c = d.toUpper) cs word

theorem map_toLower_eq_iff {cs word : List Char} (hword : ∀ d ∈ word, d.isLower = true) :
    cs.map Char.toLower = word ↔ SpellsInAnyCase cs word := by
  unfold SpellsInAnyCase
  induction word generalizing cs with
  | nil => rw [List.map_eq_nil_iff, List.forall₂_nil_right_iff]
  | cons d word ih =>
      cases cs with
      | nil => exact ⟨fun h => (by cases h), fun h => (by cases h)⟩
      | cons c cs =>
          rw [List.map_cons, List.cons.injEq, List.forall₂_cons,
            toLower_eq_iff (hword d List.mem_cons_self),
            ih fun d h => hword d (List.mem_cons_of_mem _ h)]

/-! ## The sides of a rectangle -/

namespace PixelRect

variable {r : PixelRect}

def sides (r : PixelRect) : Nat × Nat := (r.columns.toNat, r.rows.toNat)

/-- What is left over of the sides by `2 ^ 32`. -/
def leftOver (r : PixelRect) : Nat × Nat := (r.sides.1 % UInt32.size, r.sides.2 % UInt32.size)

/-- Both sides are sizes of 32 bits. -/
def Fits (r : PixelRect) : Prop := r.sides.1 < UInt32.size ∧ r.sides.2 < UInt32.size

theorem sides_pos (h : r.isDegenerate = some false) : 0 < r.sides.1 ∧ 0 < r.sides.2 := by
  obtain ⟨⟨hw, -⟩, hh, -⟩ := isDegenerate_eq_false.mp h
  unfold sides
  dsimp only
  omega

theorem exists_sides (h : r.isDegenerate = some false) : ∃ w h, r.width = some w ∧
    r.height = some h ∧ w.toInt = r.sides.1 ∧ h.toInt = r.sides.2 := by
  obtain ⟨⟨hw, hwlt⟩, hh, hhlt⟩ := isDegenerate_eq_false.mp h
  obtain ⟨w, hwidth, hwint⟩ := exists_coordinate? (z := r.columns) (by omega) hwlt
  obtain ⟨h, hheight, hhint⟩ := exists_coordinate? (z := r.rows) (by omega) hhlt
  exact ⟨w, h, hwidth, hheight, hwint.trans (Int.toNat_of_nonneg hw.le).symm,
    hhint.trans (Int.toNat_of_nonneg hh.le).symm⟩

theorem fits_iff : r.Fits ↔ r.leftOver = r.sides := by
  constructor
  · rintro ⟨hw, hh⟩
    exact Prod.ext (Nat.mod_eq_of_lt hw) (Nat.mod_eq_of_lt hh)
  · intro h
    have hpos : 0 < UInt32.size := by decide
    unfold Fits
    rw [← h]
    exact ⟨Nat.mod_lt _ hpos, Nat.mod_lt _ hpos⟩

end PixelRect

/-! ## Products -/

namespace Picture

variable {p q : Picture} {raster : Image} {r : PixelRect} {assets : AssetSource}
  {values : RequestValues}

theorem isProduct_iff : p.isProduct = true ↔ SpellsInAnyCase p.imgType.toList "product".toList := by
  unfold isProduct
  rw [beq_iff_eq]
  exact map_toLower_eq_iff (by simp)

/-- A product has a box of its own. -/
def Boxed (p : Picture) : Prop := p.isProduct = true → 0 < p.width ∧ 0 < p.height

theorem configure_boxed (h : p.configure assets = .ok q) : q.Boxed := by
  have hp : p.Boxed := by
    intro hproduct
    unfold configure at h
    obtain ⟨bindings, -, h⟩ := bind_eq_ok.mp h
    dsimp only at h
    split at h
    · cases h
    · rename_i hnot
      exact ⟨Nat.pos_of_ne_zero fun hw => hnot ⟨hproduct, .inl hw⟩,
        Nat.pos_of_ne_zero fun hh => hnot ⟨hproduct, .inr hh⟩⟩
  obtain ⟨bindings, -, ⟨-, hl⟩ | ⟨-, rfl⟩⟩ := configure_ok h
  · obtain ⟨-, _, -, rfl⟩ := load_eq_ok.mp hl
    exact hp
  · exact hp

theorem bind_boxed (hp : p.Boxed) (h : p.bind values assets = .ok (some q)) : q.Boxed := by
  obtain ⟨_, _, -, rfl⟩ := bind_some h
  exact hp

theorem Boxed.of_forget (hp : p.Boxed) (h : q.forget = p.forget) : q.Boxed := by
  have hboxed : q.forget.Boxed := by
    rw [h]
    exact hp
  exact hboxed

end Picture

namespace Plugin

variable {p q d : Plugin} {assets : AssetSource} {uses : List PluginUse}

/-- A plugin that is a product has a box of its own. -/
def Boxed : Plugin → Prop
  | image p => p.Boxed
  | _ => True

theorem configure_boxed (h : d.configure assets = .ok p) : p.Boxed := by
  cases d with
  | image d =>
      obtain ⟨p, hp, rfl⟩ := map_eq_ok.mp h
      exact Picture.configure_boxed hp
  | text d =>
      obtain ⟨c, -, rfl⟩ := map_eq_ok.mp h
      trivial
  | qr d =>
      obtain ⟨c, -, rfl⟩ := map_eq_ok.mp h
      trivial

theorem bind_boxed {values : RequestValues} (hp : p.Boxed)
    (h : p.bind values assets = .ok (some q)) : q.Boxed := by
  cases p with
  | image p =>
      obtain ⟨copy, hb, hc⟩ := map_eq_ok.mp h
      obtain ⟨p', rfl, rfl⟩ := Option.map_eq_some_iff.mp hc
      exact Picture.bind_boxed hp hb
  | text c =>
      obtain ⟨copy, -, hc⟩ := map_eq_ok.mp h
      obtain ⟨c', rfl, rfl⟩ := Option.map_eq_some_iff.mp hc
      trivial
  | qr c =>
      obtain ⟨copy, -, hc⟩ := map_eq_ok.mp h
      obtain ⟨c', rfl, rfl⟩ := Option.map_eq_some_iff.mp hc
      trivial

theorem afterDraw_boxed (hp : p.Boxed) (hk : p.Kept) (canvas : Image) :
    (p.afterDraw canvas).Boxed := by
  obtain ⟨hf, -⟩ := afterDraw_agrees hk canvas
  generalize p.afterDraw canvas = q at hf
  cases q with
  | image q =>
      cases p with
      | image p => exact Picture.Boxed.of_forget hp (image.inj hf)
      | text c => cases hf
      | qr c => cases hf
  | text c => trivial
  | qr c => trivial

theorem use_boxed {u : PluginUse} (hp : p.Boxed) (hk : p.Kept) (h : p.use assets u = .ok q) :
    q.Boxed := by
  cases u with
  | bind values =>
      obtain ⟨copy, hb, rfl⟩ := map_eq_ok.mp h
      cases copy with
      | none => exact hp
      | some q => exact bind_boxed hp hb
  | draw canvas =>
      cases h
      exact afterDraw_boxed hp hk canvas

/-- Whatever a configured plugin has been through, a product has a box of its own, and what is kept
is sound. -/
theorem chain_boxed (hd : d.Unloaded) (hp : d.configure assets = .ok p)
    (hq : p.chain assets uses = .ok q) : q.Boxed ∧ q.Current assets :=
  foldlM_keeps (fun p => p.Boxed ∧ p.Current assets)
    (fun _ _ _ h hu => ⟨use_boxed h.1 h.2.kept hu, use_current h.2 hu⟩)
    ⟨configure_boxed hp, configure_current hd hp⟩ hq

end Plugin

/-! ## The rule -/

namespace Picture

variable {p : Picture} {raster : Image} {r : PixelRect}

/-- The box by the rule: a product that is not as large as the rectangle has its own, and all else
has the rectangle. -/
def ruledBox (p : Picture) (raster : Image) (r : PixelRect) : Nat × Nat :=
  if p.isProduct ∧ raster.sides ≠ r.sides then (p.width, p.height) else r.sides

/-- The box by the same rule, for what is left over of the rectangle. -/
def narrowBox (p : Picture) (raster : Image) (r : PixelRect) : Nat × Nat :=
  if p.isProduct ∧ raster.sides ≠ r.leftOver then (p.width, p.height) else r.leftOver

theorem box_eq (hr : r.isDegenerate = some false) :
    p.box raster r = some (p.narrowBox raster r) := by
  obtain ⟨w, h, hwidth, hheight, hw, hh⟩ := PixelRect.exists_sides hr
  refine box_eq_some.mpr ⟨w, h, hwidth, hheight, ?_⟩
  rw [side_mod hw, side_mod hh]
  rfl

theorem narrowBox_of_fits (hfits : r.Fits) : p.narrowBox raster r = p.ruledBox raster r := by
  unfold narrowBox
  rw [PixelRect.fits_iff.mp hfits]
  rfl

/-- No image is as large as a rectangle with a side beyond 32 bits. -/
theorem sides_ne_of_not_fits (hs : raster.Small) (hfits : ¬ r.Fits) : raster.sides ≠ r.sides :=
  fun h => hfits (by
    unfold PixelRect.Fits
    rw [← h]
    exact hs)

/-- Just when the box is that of the rule. -/
theorem narrowBox_eq_ruledBox_iff (hs : raster.Small) :
    p.narrowBox raster r = p.ruledBox raster r ↔ r.Fits ∨
      p.isProduct = true ∧ (raster.sides = r.leftOver → (p.width, p.height) = raster.sides) := by
  by_cases hfits : r.Fits
  · exact iff_of_true (narrowBox_of_fits hfits) (.inl hfits)
  rw [or_iff_right hfits, narrowBox]
  by_cases hproduct : p.isProduct = true
  · have hruled : p.ruledBox raster r = (p.width, p.height) :=
      if_pos ⟨hproduct, sides_ne_of_not_fits hs hfits⟩
    rw [hruled]
    refine Iff.trans ?_ (and_iff_right hproduct).symm
    by_cases hsame : raster.sides = r.leftOver
    · rw [if_neg fun h => h.2 hsame, ← hsame]
      exact ⟨fun h _ => h.symm, fun h => (h rfl).symm⟩
    · exact iff_of_true (if_pos ⟨hproduct, hsame⟩) fun h => absurd h hsame
  · have hruled : p.ruledBox raster r = r.sides := if_neg fun h => hproduct h.1
    rw [hruled, if_neg fun h => hproduct h.1]
    -- what is left over is another box than the rectangle
    exact iff_of_false (fun h => hfits (PixelRect.fits_iff.mpr h)) fun h => hproduct h.1

theorem ruledBox_pos (hp : p.Boxed) (hr : r.isDegenerate = some false) :
    0 < (p.ruledBox raster r).1 ∧ 0 < (p.ruledBox raster r).2 := by
  unfold ruledBox
  split
  · rename_i h
    exact hp h.1
  · exact PixelRect.sides_pos hr

/-- Just when a side of the box is zero. -/
theorem narrowBox_zero_iff (hp : p.Boxed) :
    (p.narrowBox raster r).1 = 0 ∨ (p.narrowBox raster r).2 = 0 ↔
      (UInt32.size ∣ r.sides.1 ∨ UInt32.size ∣ r.sides.2) ∧
        (p.isProduct = true → raster.sides = r.leftOver) := by
  rw [narrowBox, Nat.dvd_iff_mod_eq_zero, Nat.dvd_iff_mod_eq_zero]
  split
  · rename_i h
    obtain ⟨hw, hh⟩ := hp h.1
    refine iff_of_false (fun hzero => ?_) fun hleft => h.2 (hleft.2 h.1)
    rcases hzero with hzero | hzero
    · exact absurd hzero hw.ne'
    · exact absurd hzero hh.ne'
  · rename_i h
    have hsame : p.isProduct = true → raster.sides = r.leftOver := fun hproduct =>
      not_not.mp fun hne => h ⟨hproduct, hne⟩
    rw [and_iff_left hsame]
    rfl

/-- The image of a configured picture is fitted into the box of the rule just if both sides of its
rectangle have 32 bits, or if it is a product that is not as large as what is left over of them, or
would be fitted to the same size.  Then no side of the box is zero.  In all, one is zero just if a
side of the rectangle is a multiple of `2 ^ 32`, unless that is for a product that has its own box.
-/
theorem box_rule {assets : AssetSource} {uses : List PluginUse} {d plugin : Plugin}
    (hd : d.Unloaded) (hp : d.configure assets = .ok plugin)
    (hq : plugin.chain assets uses = .ok (.image p)) (hs : raster.Small)
    (hr : r.isDegenerate = some false) :
    (p.isProduct = true ↔ SpellsInAnyCase p.imgType.toList "product".toList) ∧
      (p.isProduct = true → 0 < p.width ∧ 0 < p.height) ∧
      ∃ box, p.box raster r = some box ∧
        (∀ canvas : Image, p.raster = some raster →
          p.rect.transform canvas.width canvas.height = r → (p.draw canvas).1 =
            .ofImage? (p.place canvas (raster.resize p.mode box.1 box.2) r)) ∧
        (box = p.ruledBox raster r ↔ r.Fits ∨
          p.isProduct = true ∧ (raster.sides = r.leftOver → (p.width, p.height) = raster.sides)) ∧
        (box = p.ruledBox raster r → 0 < box.1 ∧ 0 < box.2) ∧
        (box.1 = 0 ∨ box.2 = 0 ↔
          (UInt32.size ∣ r.sides.1 ∨ UInt32.size ∣ r.sides.2) ∧
            (p.isProduct = true → raster.sides = r.leftOver)) := by
  obtain ⟨hboxed, hcurrent⟩ := Plugin.chain_boxed hd hp hq
  refine ⟨isProduct_iff, hboxed, p.narrowBox raster r, box_eq hr, fun canvas hraster hrect => ?_,
    narrowBox_eq_ruledBox_iff hs, fun hrule => ?_, narrowBox_zero_iff hboxed⟩
  · rw [← hrect] at hr ⊢
    exact draw_of_plan (Current.kept hcurrent) (plan_eq_ok.mpr ⟨hr, hraster, box_eq hr⟩)
  · rw [hrule]
    exact ruledBox_pos hboxed hr

/-- A product of one pixel on a canvas of four is fitted into its own box. -/
theorem box_rule_of_product :
    let source : AssetSource := .ofPictures [("a", .filled 1 1 .black)]
    let declared : Plugin :=
      .image { image := "a", imgType := "Product", width := 3, height := 2 }
    let canvas := Image.filled 4 1 .white
    let r : PixelRect := ⟨0, 0, 4, 1⟩
    ∃ plugin p, declared.Unloaded ∧ declared.configure source = .ok plugin ∧
      plugin.chain source [.draw canvas] = .ok (.image p) ∧ (Image.filled 1 1 .black).Small ∧
      r.isDegenerate = some false ∧ r.Fits ∧ p.ruledBox (.filled 1 1 .black) r = (3, 2) ∧
      (p.draw canvas).1 = .ofImage? (canvas.drawAnchored ((Image.filled 1 1 .black).resize .clip 3 2)
        2 0 0.5 0.5 (some r)) := by
  intro source declared canvas r
  have hgiven : ((declared.configure source).toOption.any fun plugin =>
      (plugin.chain source [.draw canvas]).toOption.any fun p => p.picture?.any fun p =>
        decide (p.raster = some (.filled 1 1 .black) ∧ p.mode = .clip ∧
          p.rect.transform canvas.width canvas.height = r ∧
          p.ruledBox (.filled 1 1 .black) r = (3, 2) ∧
          p.horizontalAnchor r = some (2, 0.5) ∧ p.verticalAnchor r = some (0, 0.5))) = true := by
    decide +kernel
  obtain ⟨plugin, hp, hgiven⟩ := any_toOption.mp hgiven
  obtain ⟨p, hq, hgiven⟩ := any_toOption.mp hgiven
  obtain ⟨p, hpicture, hgiven⟩ := (Option.any_eq_true _ _).mp hgiven
  rw [Plugin.picture?_eq_some.mp hpicture] at hq
  obtain ⟨hraster, hmode, hrect, hruled, hx, hy⟩ := of_decide_eq_true hgiven
  have hd : declared.Unloaded := rfl
  have hs : (Image.filled 1 1 .black).Small := ⟨by decide, by decide⟩
  have hr : r.isDegenerate = some false := by decide
  have hfits : r.Fits := ⟨by decide, by decide⟩
  obtain ⟨-, -, box, -, hdraw, hrule, -, -⟩ := box_rule hd hp hq hs hr
  have hdrawn := hdraw canvas hraster hrect
  rw [hrule.mpr (.inl hfits), hruled, hmode, place_eq hx hy] at hdrawn
  exact ⟨plugin, p, hd, hp, hq, hs, hr, hfits, hruled, hdrawn⟩

/-- A rectangle of `2 ^ 32 + 4` columns leaves over four, which is what the raster of a product
has, so the product is fitted into them and not into its own box; and a rectangle of `2 ^ 32`
columns leaves over none. -/
theorem box_beside_rule :
    let strip := Image.filled 4 1 .white
    let source : AssetSource := .ofPictures [("a", strip)]
    let wide : FractionRect := ⟨0, 0, 4294967300, 0⟩
    let r : PixelRect := ⟨0, 0, 4294967300, 1⟩
    let r' : PixelRect := ⟨0, 0, 4294967296, 1⟩
    (∃ p, configure
        { image := "a", imgType := "product", width := 30, height := 20, rect := wide } source =
          .ok p ∧
      p.raster = some strip ∧ p.rect.transform 1 1 = r ∧ r.isDegenerate = some false ∧
      p.box strip r = some (4, 1) ∧ p.ruledBox strip r = (30, 20)) ∧
    ∃ p, configure { image := "a", rect := ⟨0, 0, 4294967296, 0⟩ } source = .ok p ∧
      p.raster = some strip ∧ p.rect.transform 1 1 = r' ∧ r'.isDegenerate = some false ∧
      p.box strip r' = some (0, 1) ∧ p.ruledBox strip r' = (4294967296, 1) := by
  intro strip source wide r r'
  have hproduct : ((configure
      { image := "a", imgType := "product", width := 30, height := 20, rect := wide }
      source).toOption.any fun p =>
        decide (p.raster = some strip ∧ p.rect.transform 1 1 = r ∧ r.isDegenerate = some false ∧
          p.box strip r = some (4, 1) ∧ p.ruledBox strip r = (30, 20))) = true := by
    decide +kernel
  have hplain : ((configure { image := "a", rect := ⟨0, 0, 4294967296, 0⟩ }
      source).toOption.any fun p =>
        decide (p.raster = some strip ∧ p.rect.transform 1 1 = r' ∧ r'.isDegenerate = some false ∧
          p.box strip r' = some (0, 1) ∧ p.ruledBox strip r' = (4294967296, 1))) = true := by
    decide +kernel
  obtain ⟨p, hp, hproduct⟩ := any_toOption.mp hproduct
  obtain ⟨p', hp', hplain⟩ := any_toOption.mp hplain
  exact ⟨⟨p, hp, of_decide_eq_true hproduct⟩, p', hp', of_decide_eq_true hplain⟩

end Picture
end Placard
