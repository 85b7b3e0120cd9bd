/-
# What is opaque stays opaque

No drawing operation takes the opacity of a pixel away, so an image that is opaque everywhere is so
after any operations in any order (`Image.strokes_isOpaque`).

| | keeps opaque pixels because |
| :-- | :-- |
| one pixel over another | `sourceOver_isOpaque` |
| a region of an image | each pixel becomes what some pixel over it comes to (`updateWithin_isOpaque`) |
| an operation | if it has a result, it changes one region or one after another |

The first row is the one where the arithmetic matters.  Over an opaque pixel the result is given the
alpha 255 outright, unless the sum of the two opacities is not above zero in 32-bit arithmetic, when
the result is transparent.  The sum of any alpha and what it leaves of an opaque pixel has to be
above zero, then, and not just near one; there are 256 alphas, and all of them are computed
(`opacity_pos`).
-/
import Placard.Frame
import Placard.Proofs.Failure
import Placard.Proofs.Plugin.Drawn

namespace Placard

/-! ## One pixel -/

/-- The opacity of any alpha over an opaque pixel is above zero. -/
theorem opacity_pos (alpha : UInt8) :
    ¬ alpha.toFloat32 / 255 + (255 : UInt8).toFloat32 / 255 * (1 - alpha.toFloat32 / 255) ≤ 0 := by
  have h : ∀ n : Fin 256, ¬ (UInt8.ofFin n).toFloat32 / 255 +
      (255 : UInt8).toFloat32 / 255 * (1 - (UInt8.ofFin n).toFloat32 / 255) ≤ 0 := by
    decide +kernel
  exact h alpha.toFin

theorem sourceOver_isOpaque {dst src : Rgba} {alpha : UInt8} (h : dst.alpha = 255) :
    (sourceOver dst src alpha).alpha = 255 := by
  unfold sourceOver
  rw [h]
  by_cases ha : alpha = 255
  · rw [if_pos ha]
  · rw [if_neg ha]
    dsimp only
    rw [if_neg (opacity_pos alpha), if_pos rfl]

theorem blendOver_isOpaque {dst color : Rgba} {coverage : Float32} (h : dst.alpha = 255) :
    (blendOver dst color coverage).alpha = 255 := by
  unfold blendOver
  dsimp only
  split
  · exact h
  · exact sourceOver_isOpaque h

theorem pixelOver_isOpaque {dst src : Rgba} (h : dst.alpha = 255) :
    (pixelOver dst src).alpha = 255 := by
  unfold pixelOver
  split
  · exact h
  · exact sourceOver_isOpaque h

namespace Image

variable {img : Image}

/-! ## A region -/

theorem isOpaque_iff : img.isOpaque = true ↔ ∀ p ∈ img.pixels, p.alpha = 255 := by
  rw [isOpaque, Array.all_eq_true_iff_forall_mem]
  exact forall₂_congr fun p _ => decide_eq_true_iff

theorem updateRun_isOpaque {f : Nat → Rgba → Rgba}
    (hf : ∀ i p, p.alpha = 255 → (f i p).alpha = 255) {count along index : Nat}
    {pixels : Array Rgba} (h : ∀ p ∈ pixels, p.alpha = 255) :
    ∀ p ∈ updateRun f count along index pixels, p.alpha = 255 := by
  induction count generalizing along index pixels with
  | zero => exact h
  | succ count ih =>
      refine ih fun p hp => ?_
      obtain ⟨i, hi, rfl⟩ := Array.mem_iff_getElem.mp hp
      rw [Array.getElem_modify]
      have hold := h _ (Array.getElem_mem (Array.size_modify ▸ hi))
      split
      · exact hf _ _ hold
      · exact hold

theorem updateRows_isOpaque {f : Nat → Nat → Rgba → Rgba}
    (hf : ∀ i j p, p.alpha = 255 → (f i j p).alpha = 255)
    {stride count rows along index : Nat} {pixels : Array Rgba} (h : ∀ p ∈ pixels, p.alpha = 255) :
    ∀ p ∈ updateRows f stride count rows along index pixels, p.alpha = 255 := by
  induction rows generalizing along index pixels with
  | zero => exact h
  | succ rows ih => exact ih (updateRun_isOpaque (hf along) h)

theorem updateBlock_isOpaque {left top width height : Nat} {f : Nat → Nat → Rgba → Rgba}
    (hf : ∀ i j p, p.alpha = 255 → (f i j p).alpha = 255) (h : img.isOpaque = true) :
    (img.updateBlock left top width height f).isOpaque = true :=
  isOpaque_iff.mpr (updateRows_isOpaque hf (isOpaque_iff.mp h))

theorem updateWithin_isOpaque {rect : PixelRect} {f : Int64 → Int64 → Rgba → Rgba}
    (hf : ∀ x y p, p.alpha = 255 → (f x y p).alpha = 255) (h : img.isOpaque = true) :
    (img.updateWithin rect f).isOpaque = true := by
  unfold updateWithin
  dsimp only
  split
  · exact updateBlock_isOpaque (fun _ _ p hp => hf _ _ p hp) h
  · exact h

/-! ## Operations -/

theorem blend_isOpaque {x y : Int64} {color : Rgba} {coverage : Float32} (h : img.isOpaque = true) :
    (img.blend x y color coverage).isOpaque = true := by
  unfold blend
  split
  · exact updateBlock_isOpaque (fun _ _ _ => blendOver_isOpaque) h
  · exact h

theorem fill_isOpaque {rect : PixelRect} {color : Rgba} (h : img.isOpaque = true) :
    (img.fill rect color).isOpaque = true :=
  updateWithin_isOpaque (fun _ _ _ => blendOver_isOpaque) h

theorem rule_isOpaque {x₀ x₁ y thickness : Float} {color : Rgba} {out : Image}
    (h : img.isOpaque = true) (hr : img.rule x₀ x₁ y thickness color = some out) :
    out.isOpaque = true := by
  obtain ⟨bottom, -, rfl⟩ := rule_eq_some.mp hr
  exact fill_isOpaque h

theorem layPixel_isOpaque {src : Image} {column row : Int64} {old : Rgba} (h : old.alpha = 255) :
    (src.layPixel column row old).alpha = 255 := by
  unfold layPixel
  split
  · exact pixelOver_isOpaque h
  · exact h

theorem draw_isOpaque {src out : Image} {x y : Int64} {clip : Option PixelRect}
    (h : img.isOpaque = true) (hd : img.draw src x y clip = some out) : out.isOpaque = true := by
  obtain ⟨visible, -, ⟨-, rfl⟩ | ⟨-, rfl⟩⟩ := draw_eq_some.mp hd
  · exact h
  · exact updateWithin_isOpaque (fun _ _ _ => layPixel_isOpaque) h

theorem drawAnchored_isOpaque {src out : Image} {x y : Int64} {ax ay : Float}
    {clip : Option PixelRect} (h : img.isOpaque = true)
    (hd : img.drawAnchored src x y ax ay clip = some out) : out.isOpaque = true := by
  obtain ⟨left, top, -, -, hd⟩ := drawAnchored_eq_some.mp hd
  exact draw_isOpaque h hd

theorem filled_isOpaque {width height : Nat} {color : Rgba} (h : color.alpha = 255) :
    (filled width height color).isOpaque = true := by
  refine isOpaque_iff.mpr fun p hp => ?_
  rw [(Array.mem_replicate.mp hp).2]
  exact h

theorem canvas_isOpaque {width height : Nat} {color : Rgba} (h : color.alpha = 255) :
    (canvas width height (some color)).isOpaque = true := by
  unfold canvas
  dsimp only
  rw [if_neg (by rw [h]; decide)]
  exact filled_isOpaque h

/-- An opaque image is seen in a format without an alpha channel as it is. -/
theorem seen_of_isOpaque (h : img.isOpaque = true) (format : ImageFormat) :
    format.seen img = img := by
  cases format with
  | png => rfl
  | jpeg =>
      obtain ⟨width, height, pixels, size_eq⟩ := img
      have hp : ∀ p ∈ pixels, ({ p with alpha := 255 } : Rgba) = p := fun p hp => by
        have halpha : p.alpha = 255 := isOpaque_iff.mp h p hp
        rw [← halpha]
      have hmap : (pixels.map fun p => ({ p with alpha := 255 } : Rgba)) = pixels :=
        (Array.map_congr_left hp).trans (Array.map_id' pixels)
      simp only [ImageFormat.seen, hmap]

end Image

/-! ## Text -/

/-- Every mark of the stamp lays a color over a pixel. -/
def Stamp.Lays (s : Stamp) : Prop :=
  ∀ column row f, s.mark? column row = some f → ∃ color coverage, f = (blendOver · color coverage)

theorem Stamp.Lays.draw_isOpaque {s : Stamp} {img out : Image} (hs : s.Lays)
    (h : img.isOpaque = true) (hd : Stamp.draw img s = some out) : out.isOpaque = true := by
  obtain ⟨-, rfl⟩ := draw_eq_some.mp hd
  refine Image.updateWithin_isOpaque (fun px py old ho => ?_) h
  cases hm : s.mark? (px - s.left).toNatClampNeg (py - s.top).toNatClampNeg with
  | none => exact ho
  | some f =>
      obtain ⟨color, coverage, rfl⟩ := hs _ _ f hm
      exact blendOver_isOpaque ho

namespace FontFace

theorem cellStamp_lays {scale x baseline : Float} {color : Rgba} {c : Char} {i : Nat} :
    (Font.cellStamp scale x baseline color c i).Lays := by
  intro column row f hf
  obtain ⟨-, hf⟩ := Option.ite_none_right_eq_some.mp hf
  exact ⟨color, 1, (Option.some.inj hf).symm⟩

theorem glyphStamp_lays {cover : Font.GlyphCover} {color : Rgba} : (glyphStamp cover color).Lays :=
  fun column row _ hf => ⟨color, cover.part column row, (Option.some.inj hf).symm⟩

theorem cellStamps_lay {scale x baseline : Float} {color : Rgba} {cs : List Char} {i : Nat} :
    ∀ s ∈ Font.cellStamps scale x baseline color cs i, s.Lays := by
  induction cs generalizing i with
  | nil => exact fun s hs => absurd hs List.not_mem_nil
  | cons c cs ih => exact List.forall_mem_cons.mpr ⟨cellStamp_lays, ih⟩

theorem glyphStamps_lay {font : Font.OutlineFont} {size baseline : Float32} {color : Rgba}
    {cs : List Char} {before : Option Nat} {caret : Float32} :
    ∀ s ∈ glyphStamps font size baseline color cs before caret, s.Lays := by
  induction cs generalizing before caret with
  | nil => exact fun s hs => absurd hs List.not_mem_nil
  | cons c cs ih =>
      refine fun s hs => (List.mem_append.mp hs).elim (fun hs => ?_) (ih s)
      obtain ⟨cover, -, rfl⟩ := Option.map_eq_some_iff.mp (Option.mem_toList.mp hs)
      exact glyphStamp_lays

theorem stamps_lay {face : FontFace} {text : String} {x baseline : Float} {color : Rgba} :
    ∀ s ∈ face.stamps text x baseline color, s.Lays := by
  unfold stamps
  split
  · exact cellStamps_lay
  · exact glyphStamps_lay

theorem draw_isOpaque {face : FontFace} {img out : Image} {text : String} {x baseline : Float}
    {color : Rgba} (h : img.isOpaque = true)
    (hd : face.draw img text x baseline color = some out) : out.isOpaque = true := by
  unfold draw at hd
  have hlay : ∀ s ∈ face.stamps text x baseline color, s.Lays := stamps_lay
  generalize face.stamps text x baseline color = ss at *
  induction ss generalizing img with
  | nil =>
      cases hd
      exact h
  | cons s ss ih =>
      obtain ⟨hs, hss⟩ := List.forall_mem_cons.mp hlay
      obtain ⟨next, hnext, hd⟩ := Option.bind_eq_some_iff.mp hd
      exact ih (hs.draw_isOpaque h hnext) hd hss

end FontFace

/-! ## Plugins -/

namespace Plugin

variable {canvas img : Image}

theorem draw_isOpaque {p : Plugin} (h : canvas.isOpaque = true)
    (hd : (p.draw canvas).1 = .done img) : img.isOpaque = true := by
  cases p with
  | image p =>
      obtain ⟨raster, box, -, hplace⟩ := Picture.draw_eq_done.mp hd
      obtain ⟨x, ax, y, ay, -, -, hdrawn⟩ := Picture.place_eq_some.mp hplace
      exact Image.drawAnchored_isOpaque h hdrawn
  | text c =>
      obtain ⟨face, layout, -, -, hpaint⟩ := Caption.draw_eq_done.mp hd
      obtain ⟨ruled, hrules, hruns⟩ := Caption.paint_eq_some.mp hpaint
      have hruled : ruled.isOpaque = true :=
        Image.foldlM_keeps (fun _ _ _ hi => Image.rule_isOpaque hi) h hrules
      exact Image.foldlM_keeps (fun _ _ _ hi => FontFace.draw_isOpaque hi) hruled hruns
  | qr c =>
      have hc : c.draw canvas = .done img := hd
      cases hm : c.matrix with
      | none => cases (Code.draw_of_no_matrix hm).symm.trans hc
      | some matrix =>
          rw [Code.draw_of_matrix hm, Drawing.ofImage?_eq_done] at hc
          exact Image.drawAnchored_isOpaque h hc

theorem drawAll_isOpaque {ps : List Plugin} {index : Nat} (h : canvas.isOpaque = true)
    (hd : (drawAll index ps canvas).1 = .ok img) : img.isOpaque = true := by
  induction ps generalizing index canvas with
  | nil =>
      cases hd
      exact h
  | cons p ps ih =>
      unfold drawAll at hd
      split at hd
      · cases hd
      · cases hd
      · rename_i drawn q hp
        have hdrawn : (p.draw canvas).1 = .done drawn := congrArg Prod.fst hp
        exact ih (draw_isOpaque h hdrawn) hd

end Plugin

/-! ## Operations in any order -/

/-- A drawing operation with its arguments. -/
inductive Stroke where
  | blend (x y : Int64) (color : Rgba) (coverage : Float32)
  | fill (rect : PixelRect) (color : Rgba)
  | rule (x₀ x₁ y thickness : Float) (color : Rgba)
  | image (src : Image) (x y : Int64) (clip : Option PixelRect)
  | anchored (src : Image) (x y : Int64) (ax ay : Float) (clip : Option PixelRect)
  | text (face : FontFace) (line : String) (x baseline : Float) (color : Rgba)
  | plugin (p : Plugin)

namespace Image

/-- The image after an operation, if no sum is out of range; a plugin that cannot be drawn leaves it
alone. -/
def stroke (img : Image) : Stroke → Option Image
  | .blend x y color coverage => some (img.blend x y color coverage)
  | .fill rect color => some (img.fill rect color)
  | .rule x₀ x₁ y thickness color => img.rule x₀ x₁ y thickness color
  | .image src x y clip => img.draw src x y clip
  | .anchored src x y ax ay clip => img.drawAnchored src x y ax ay clip
  | .text face line x baseline color => face.draw img line x baseline color
  | .plugin p =>
    match (p.draw img).1 with
    | .done drawn => some drawn
    | .failed _ => some img
    | .overflow => none

theorem stroke_isOpaque {img out : Image} {s : Stroke} (h : img.isOpaque = true)
    (hs : img.stroke s = some out) : out.isOpaque = true := by
  cases s with
  | blend x y color coverage =>
      cases hs
      exact blend_isOpaque h
  | fill rect color =>
      cases hs
      exact fill_isOpaque h
  | rule x₀ x₁ y thickness color => exact rule_isOpaque h hs
  | image src x y clip => exact draw_isOpaque h hs
  | anchored src x y ax ay clip => exact drawAnchored_isOpaque h hs
  | text face line x baseline color => exact FontFace.draw_isOpaque h hs
  | plugin p =>
      unfold stroke at hs
      dsimp only at hs
      cases hd : (p.draw img).1 with
      | done drawn =>
          rw [hd] at hs
          cases hs
          exact Plugin.draw_isOpaque h hd
      | failed e =>
          rw [hd] at hs
          cases hs
          exact h
      | overflow =>
          rw [hd] at hs
          cases hs

theorem strokes_isOpaque {img out : Image} {strokes : List Stroke} (h : img.isOpaque = true)
    (hs : strokes.foldlM stroke img = some out) : out.isOpaque = true :=
  foldlM_keeps (fun _ _ _ => stroke_isOpaque) h hs

end Image

/-! ## Renders -/

theorem Template.render_isOpaque {t : Template} {color : Rgba} {values : RequestValues}
    {width : Nat} {assets : AssetSource} {img : Image} (hb : t.background = some color)
    (hc : color.alpha = 255) (hr : (t.render values width assets).1 = .ok img) :
    img.isOpaque = true := by
  unfold render at hr
  split at hr
  · cases hr
  · have hcanvas : (t.canvas (t.selectWidth width)).isOpaque = true := by
      unfold Template.canvas
      rw [hb]
      exact Image.canvas_isOpaque hc
    exact Plugin.drawAll_isOpaque hcanvas hr

namespace PriceBlock

variable {b : PriceBlock} {l : PriceLayout} {amount : Int64} {photo out : Image}

theorem write_isOpaque (h : photo.isOpaque = true) (hw : b.write l photo = some out) :
    out.isOpaque = true := by
  obtain ⟨written, hwritten, hw⟩ := Option.bind_eq_some_iff.mp hw
  have hopaque := FontFace.draw_isOpaque h hwritten
  split at hw
  · cases hw
    exact Image.fill_isOpaque hopaque
  · cases hw
    exact hopaque

theorem draw_isOpaque (h : photo.isOpaque = true) (hd : b.draw amount photo = some out) :
    out.isOpaque = true := by
  obtain ⟨layout, -, hd⟩ := Option.bind_eq_some_iff.mp hd
  cases layout with
  | none =>
      cases hd
      exact h
  | some l => exact write_isOpaque h hd

end PriceBlock

namespace PriceFrame

variable {f : PriceFrame} {photo out : Image} {price promo : Int64}

theorem drawPrices_isOpaque {pricing : Pricing} (h : photo.isOpaque = true)
    (hd : f.drawPrices pricing photo = some out) : out.isOpaque = true := by
  cases pricing with
  | frameOnly =>
      cases hd
      exact h
  | single amount => exact PriceBlock.draw_isOpaque h hd
  | promotion full reduced =>
      obtain ⟨first, hfirst, hd⟩ := Option.bind_eq_some_iff.mp hd
      exact PriceBlock.draw_isOpaque (PriceBlock.draw_isOpaque h hfirst) hd

theorem generate_isOpaque (h : photo.isOpaque = true)
    (hg : (f.generate photo price promo).1 = some out) : out.isOpaque = true := by
  obtain ⟨framed, hframed, hg⟩ := Option.bind_eq_some_iff.mp hg
  exact drawPrices_isOpaque (Image.draw_isOpaque h hframed) hg

end PriceFrame

/-- An image that is opaque everywhere is so after any drawing operations, with any arguments and in
any order.  So whatever has been rendered before, a template with an opaque background renders opaque
images only, and a price frame makes an opaque one of an opaque photo; and a format without an alpha
channel shows them as they are. -/
theorem drawing_keeps_opacity :
    (∀ (img : Image) (strokes : List Stroke) (out : Image), img.isOpaque = true →
      strokes.foldlM Image.stroke img = some out → out.isOpaque = true) ∧
    (∀ (t : Template) color values width assets img, t.background = some color →
      color.alpha = 255 → (t.render values width assets).1 = .ok img →
      img.isOpaque = true ∧ ∀ format : ImageFormat, format.seen img = img) ∧
    (∀ (f : PriceFrame) (photo : Image) price promo img, photo.isOpaque = true →
      (f.generate photo price promo).1 = some img →
      img.isOpaque = true ∧ ∀ format : ImageFormat, format.seen img = img) := by
  refine ⟨fun img strokes out => Image.strokes_isOpaque, ?_, ?_⟩
  · intro t color values width assets img hb hc hr
    have himg := Template.render_isOpaque hb hc hr
    exact ⟨himg, Image.seen_of_isOpaque himg⟩
  · intro f photo price promo img hp hg
    have himg := PriceFrame.generate_isOpaque hp hg
    exact ⟨himg, Image.seen_of_isOpaque himg⟩

/-- A pixel that is covered by no number, and a translucent rectangle that reaches beyond the image:
the second one is seen, and both pixels are opaque as before. -/
theorem drawing_keeps_opacity_of_white :
    let img : Image := .filled 2 1 .white
    let strokes : List Stroke :=
      [.blend 1 0 .black (0 / 0), .fill ⟨-3, 0, 1, 9⟩ ⟨0, 0, 0, 128⟩]
    ∃ drawn, img.isOpaque = true ∧ strokes.foldlM Image.stroke img = some drawn ∧
      drawn.pixels = #[⟨127, 127, 127, 255⟩, .white] ∧ drawn.isOpaque = true := by
  intro img strokes
  have himg : img.isOpaque = true := by decide +kernel
  have hdrawn : (strokes.foldlM Image.stroke img).any fun drawn =>
      decide (drawn.pixels = #[⟨127, 127, 127, 255⟩, .white]) := by
    decide +kernel
  obtain ⟨drawn, hd, hp⟩ := (Option.any_eq_true _ _).mp hdrawn
  exact ⟨drawn, himg, hd, of_decide_eq_true hp, drawing_keeps_opacity.1 img strokes drawn himg hd⟩

end Placard
