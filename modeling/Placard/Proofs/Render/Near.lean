/-
# Templates drawn near zero

A template is rendered by drawing its plugins on one canvas, and the render is broken off at the first
sum that is no coordinate.  The canvas and all sizes come with 32 bits from the template and the
assets, but how far from zero things are drawn is not bounded by what is accepted: callers answer for
what they declare outside of the canvas.  It is the one condition (`Template.Near`), and under it no
sum is ever out of range (`Template.load_render_near`).  Without it a rectangle can be so wide that its
width is not a coordinate.
-/
import Placard.Proofs.Plugin.Near
import Placard.Proofs.Render.Height

namespace Placard

/-! ## Lists of plugins -/

/-- Every drawing leaves a canvas with the same sides, so the plugins of a list that are near to zero
to begin with stay so. -/
theorem Plugin.composePlain_ne_task {ps : List Plugin} {canvas : Image} (hc : canvas.Small)
    (hs : ∀ p ∈ ps, p.Small) (h : ∀ p ∈ ps, p.Near canvas.width canvas.height) (index : Nat) :
    composePlain index ps canvas ≠ .error .task := by
  induction ps generalizing index canvas with
  | nil => exact fun h => by cases h
  | cons p ps ih =>
      have hp := (h p List.mem_cons_self).drawPlain_ne_overflow hc (hs p List.mem_cons_self)
      rw [composePlain]
      cases hd : p.drawPlain canvas with
      | overflow => exact absurd hd hp
      | failed e => exact fun h => by cases h
      | done img =>
          have hsides := drawPlain_sides hd
          obtain ⟨hw, hh⟩ := Prod.mk.inj hsides
          refine ih (hc.of_sides hsides) (fun q hq => hs q (List.mem_cons_of_mem p hq)) ?_ _
          rw [hw, hh]
          exact fun q hq => h q (List.mem_cons_of_mem p hq)

/-! ## Templates -/

namespace Template

/-- What is drawn of the template for a request is near to zero. -/
def Near (t : Template) (values : RequestValues) (requested : Nat) (assets : AssetSource) : Prop :=
  ∀ copies, Plugin.bindAll values assets 0 t.plugins = .ok copies →
    ∀ p ∈ t.plugins.zipWith (fun p copy => copy.getD p) copies,
      p.Near (t.selectWidth requested) (t.deriveHeight (t.selectWidth requested))

instance {t : Template} {values : RequestValues} {requested : Nat} {assets : AssetSource} :
    Decidable (t.Near values requested assets) :=
  match hb : Plugin.bindAll values assets 0 t.plugins with
  | .error _ => .isTrue fun copies h => by
      cases hb.symm.trans h
  | .ok copies => decidable_of_iff
      (∀ p ∈ t.plugins.zipWith (fun p copy => copy.getD p) copies,
        p.Near (t.selectWidth requested) (t.deriveHeight (t.selectWidth requested)))
      ⟨fun hn copies' h => by
        cases hb.symm.trans h
        exact hn, fun hn => hn copies hb⟩

variable {t : Template} {values : RequestValues} {requested : Nat} {assets : AssetSource}
  {name : String} {content : Payload}

/-- The canvas of a loaded template is small. -/
theorem canvas_small (h : load name content assets = .ok t) :
    (t.canvas (t.selectWidth requested)).Small := by
  have hsides : (t.canvas (t.selectWidth requested)).sides = _ := t.canvas_sides _
  obtain ⟨hw, hh⟩ := Prod.mk.inj hsides
  exact ⟨hw.trans_lt (load_widths h _ selectWidth_mem), hh.trans_lt Binary.toSize_lt⟩

end Template
end Placard
