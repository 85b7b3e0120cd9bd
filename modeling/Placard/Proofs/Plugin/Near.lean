/-
# Plugins drawn near zero

A plugin comes to pixels from fractions of a canvas, from margins and from the measures of a face, and
the numbers it declares are not bounded.  So a conversion to coordinates may end at the limits of 64
bits, and a sum with such a coordinate is none.  Nearer to zero a plugin does not overflow:

| | what has to be near to zero |
| :-- | :-- |
| a picture | the edges of its rectangle, its margins, and the part of its width that it is moved by |
| a code | the place of its middle |
| a caption | the upper edges and the thickness of its rules, the corners and the sides of its glyphs |

For all of these, `2 ^ 61` pixels are near.  A caption overflows just if the lower edge of a rule or a
mark of a glyph is no coordinate (`Caption.draw_eq_overflow_iff`).
-/
import Placard.Proofs.Plugin.Plain
import Placard.Proofs.Plugin.Small
import Placard.Proofs.Raster.Offset
import Placard.Proofs.Raster.Overlay

namespace Placard
open Binary

variable {canvas : Image} {n : Nat}

/-! ## Pictures -/

namespace Picture

/-- The alignment of the picture keeps a margin. -/
def KeepsMargin (p : Picture) : Prop := p.halign = .leftMargin ∨ p.halign = .rightMargin

instance {p : Picture} : Decidable p.KeepsMargin := inferInstanceAs (Decidable (_ ∨ _))

/-- The part of its width that a picture is moved to the left by. -/
def offset (p : Picture) (r : PixelRect) : Int64 :=
  match p.plan r, p.horizontalAnchor r with
  | some (.ok (raster, box)), some (_, ax) =>
    truncated (ax * extent (raster.resize p.mode box.1 box.2).width)
  | _, _ => 0

/-- The rectangle of a picture is near to zero on a canvas of the given size, and so is all that the
picture is moved by. -/
structure Near (width height : Nat) (p : Picture) : Prop where
  rect : (p.rect.transform width height).Within (2 ^ 61)
  x : p.KeepsMargin → Within (2 ^ 61) p.x
  y : p.valign = .middle → Within (2 ^ 61) p.y
  offset : Within (2 ^ 61) (p.offset (p.rect.transform width height))

instance {width height : Nat} {p : Picture} : Decidable (p.Near width height) :=
  decidable_of_iff ((p.rect.transform width height).Within (2 ^ 61) ∧
      (p.KeepsMargin → Within (2 ^ 61) p.x) ∧ (p.valign = .middle → Within (2 ^ 61) p.y) ∧
      Within (2 ^ 61) (p.offset (p.rect.transform width height)))
    ⟨fun ⟨rect, x, y, offset⟩ => ⟨rect, x, y, offset⟩, fun ⟨rect, x, y, offset⟩ => ⟨rect, x, y, offset⟩⟩

variable {p : Picture} {r : PixelRect} {raster : Image} {box : Nat × Nat}

theorem exists_sides (hr : r.Within (2 ^ 61)) :
    ∃ w h d, r.width = some w ∧ r.height = some h ∧ r.isDegenerate = some d := by
  obtain ⟨w, hw, -⟩ := hr.right.minus? hr.left (by decide)
  obtain ⟨h, hh, -⟩ := hr.bottom.minus? hr.top (by decide)
  have hw : r.width = some w := hw
  have hh : r.height = some h := hh
  unfold PixelRect.isDegenerate
  rw [hw, hh]
  by_cases hle : w ≤ 0
  · exact ⟨w, h, true, rfl, rfl, if_pos hle⟩
  · exact ⟨w, h, decide (h ≤ 0), rfl, rfl, if_neg hle⟩

/-- A picture in a rectangle near zero has a plan, whatever it is. -/
theorem exists_plan (hr : r.Within (2 ^ 61)) : ∃ plan, p.plan r = some plan := by
  obtain ⟨w, h, d, hw, hh, hd⟩ := exists_sides hr
  unfold plan box
  rw [hd, hw, hh]
  cases d with
  | true => exact ⟨_, rfl⟩
  | false =>
      cases p.raster with
      | none => exact ⟨_, rfl⟩
      | some raster => exact ⟨_, rfl⟩

theorem exists_horizontalAnchor (hr : r.Within (2 ^ 61))
    (hx : p.KeepsMargin → Within (2 ^ 61) p.x) :
    ∃ x ax, p.horizontalAnchor r = some (x, ax) ∧ Within (2 ^ 62) x := by
  obtain ⟨w, -, -, hw, -⟩ := exists_sides hr
  unfold horizontalAnchor
  cases hh : p.halign with
  | left => exact ⟨_, _, rfl, hr.left.mono (by decide)⟩
  | center =>
      obtain ⟨sum, hsum, -, hs⟩ := hr.left.plus? hr.right (by decide)
      dsimp only
      rw [hsum]
      exact ⟨_, _, rfl, hs.half.mono (by decide)⟩
  | right => exact ⟨_, _, rfl, hr.right.mono (by decide)⟩
  | leftMargin =>
      obtain ⟨sum, hsum, -, hs⟩ := hr.left.plus? (hx (.inl hh)) (by decide)
      dsimp only
      rw [hsum, hw]
      exact ⟨_, _, rfl, hs⟩
  | rightMargin =>
      obtain ⟨sum, hsum, -, hs⟩ := hr.right.minus? (hx (.inr hh)) (by decide)
      dsimp only
      rw [hsum, hw]
      exact ⟨_, _, rfl, hs⟩

theorem exists_verticalAnchor (hr : r.Within (2 ^ 61))
    (hy : p.valign = .middle → Within (2 ^ 61) p.y) :
    ∃ y ay, p.verticalAnchor r = some (y, ay) ∧ Within (2 ^ 62) y ∧ Bounded (1 : ℕ) ay := by
  unfold verticalAnchor
  cases hv : p.valign with
  | top => exact ⟨_, _, rfl, hr.top.mono (by decide), bounded_zero (by norm_num)⟩
  | middle =>
      obtain ⟨sum, hsum, -, hs⟩ := hr.top.plus? hr.bottom (by decide)
      obtain ⟨moved, hmoved, -, hm⟩ := hs.half.plus? (hy hv) (by decide)
      dsimp only
      rw [hsum, Option.bind_eq_bind, Option.bind_some, hmoved]
      exact ⟨_, _, rfl, hm, bounded_half (by norm_num)⟩
  | bottom => exact ⟨_, _, rfl, hr.bottom.mono (by decide), bounded_one (by norm_num)⟩

/-- A fitted image has a place near zero, if it is not moved by much. -/
theorem exists_place {fitted : Image} (hc : canvas.Small) (hf : fitted.Small)
    (hr : r.Within (2 ^ 61)) (hx : p.KeepsMargin → Within (2 ^ 61) p.x)
    (hy : p.valign = .middle → Within (2 ^ 61) p.y)
    (ho : ∀ x ax, p.horizontalAnchor r = some (x, ax) →
      Within (2 ^ 61) (truncated (ax * extent fitted.width))) :
    ∃ out, p.place canvas fitted r = some out := by
  obtain ⟨x, ax, hax, hxn⟩ := exists_horizontalAnchor hr hx
  obtain ⟨y, ay, hay, hyn, hpart⟩ := exists_verticalAnchor hr hy
  obtain ⟨left, hleft, -, hl⟩ := hxn.minus? (ho x ax hax) (by decide)
  obtain ⟨top, htop, -, ht⟩ := hyn.minus? (within_part hpart hf.2 (by decide)) (by decide)
  have hclip : ∀ c ∈ some r, c.Within (2 ^ 61) := fun c hmem => by
    cases hmem
    exact hr
  obtain ⟨out, hout⟩ := Image.exists_draw hc hf hl (ht.mono (by decide)) hclip (by decide)
    (by decide) (by decide)
  exact ⟨out, place_eq_some.mpr ⟨x, ax, y, ay, hax, hay,
    Image.drawAnchored_eq_some.mpr ⟨left, top, hleft, htop, hout⟩⟩⟩

theorem Near.exists_place (hc : canvas.Small) (hp : p.Small)
    (h : p.Near canvas.width canvas.height)
    (hplan : p.plan (p.rect.transform canvas.width canvas.height) = some (.ok (raster, box))) :
    ∃ out, p.place canvas (raster.resize p.mode box.1 box.2)
      (p.rect.transform canvas.width canvas.height) = some out := by
  obtain ⟨hr, hx, hy, ho⟩ := h
  generalize p.rect.transform canvas.width canvas.height = r at *
  obtain ⟨-, hraster, hbox⟩ := plan_eq_ok.mp hplan
  obtain ⟨hbw, hbh⟩ := box_lt hp hbox
  have hfitted : (raster.resize p.mode box.1 box.2).Small :=
    Image.resize_small (hp.raster raster hraster) hbw hbh
  refine Picture.exists_place hc hfitted hr hx hy fun x ax hax => ?_
  unfold Picture.offset at ho
  rwa [hplan, hax] at ho

theorem Near.drawPlain_ne_overflow (hc : canvas.Small) (hp : p.Small)
    (h : p.Near canvas.width canvas.height) : p.drawPlain canvas ≠ .overflow := by
  obtain ⟨plan, hplan⟩ := exists_plan (p := p) h.rect
  unfold drawPlain
  dsimp only
  rw [hplan]
  cases plan with
  | error e => exact nofun
  | ok found =>
      obtain ⟨out, hout⟩ := h.exists_place hc hp hplan
      dsimp only
      rw [hout]
      exact nofun

end Picture

/-! ## Codes -/

namespace Code

/-- The middle of a code is near to zero on a canvas of the given size. -/
structure Near (width height : Nat) (c : Code) : Prop where
  x : Within (2 ^ 61) (c.anchor.transform width height).1
  y : Within (2 ^ 61) (c.anchor.transform width height).2

instance {width height : Nat} {c : Code} : Decidable (c.Near width height) :=
  decidable_of_iff (Within (2 ^ 61) (c.anchor.transform width height).1 ∧
      Within (2 ^ 61) (c.anchor.transform width height).2)
    ⟨fun ⟨x, y⟩ => ⟨x, y⟩, fun ⟨x, y⟩ => ⟨x, y⟩⟩

variable {c : Code}

theorem Near.draw_ne_overflow (hc : canvas.Small) (hs : c.Small)
    (h : c.Near canvas.width canvas.height) : c.draw canvas ≠ .overflow := by
  cases hm : c.matrix with
  | none =>
      rw [draw_of_no_matrix hm]
      exact nofun
  | some matrix =>
      have hsrc : (c.symbol matrix canvas).Small := Matrix.render_small (hs matrix hm) toSize_lt
      have hhalf : Bounded (1 : ℕ) 0.5 := bounded_half (by norm_num)
      obtain ⟨left, hleft, -, hl⟩ := h.x.minus? (within_part hhalf hsrc.1 (by decide)) (by decide)
      obtain ⟨top, htop, -, ht⟩ := h.y.minus? (within_part hhalf hsrc.2 (by decide)) (by decide)
      have hclip : ∀ c ∈ (none : Option PixelRect), c.Within 0 :=
        fun c hmem => absurd hmem (Option.not_mem_none c)
      obtain ⟨out, hout⟩ := Image.exists_draw hc hsrc hl ht hclip (by decide) (by decide) (by decide)
      rw [draw_of_matrix hm, Image.drawAnchored_eq_some.mpr ⟨left, top, hleft, htop, hout⟩]
      exact nofun

end Code

/-! ## Captions -/

namespace StrikeRule

/-- The upper edge of a rule is near to zero, and the rule is not too thick. -/
structure Near (r : StrikeRule) : Prop where
  top : Within (2 ^ 61) (Image.ruleTop r.y r.thickness)
  thickness : Within (2 ^ 61) (nearest (Image.ruleThickness r.thickness))

instance {r : StrikeRule} : Decidable r.Near :=
  decidable_of_iff (Within (2 ^ 61) (Image.ruleTop r.y r.thickness) ∧
      Within (2 ^ 61) (nearest (Image.ruleThickness r.thickness)))
    ⟨fun ⟨top, thickness⟩ => ⟨top, thickness⟩, fun ⟨top, thickness⟩ => ⟨top, thickness⟩⟩

/-- The lower edge of a rule is a coordinate. -/
def HasBottom (r : StrikeRule) : Prop :=
  (plus? (Image.ruleTop r.y r.thickness) (nearest (Image.ruleThickness r.thickness))).isSome = true

theorem Near.hasBottom {r : StrikeRule} (h : r.Near) : r.HasBottom := by
  obtain ⟨bottom, hbottom, -⟩ := h.top.plus? h.thickness (by decide)
  exact Option.isSome_iff_exists.mpr ⟨bottom, hbottom⟩

end StrikeRule

namespace Stamp

/-- The corner of a stamp is near to zero, and the stamp is not too large. -/
structure Near (s : Stamp) : Prop where
  left : Within (2 ^ 61) s.left
  top : Within (2 ^ 61) s.top
  width : s.width ≤ 2 ^ 61
  height : s.height ≤ 2 ^ 61

instance {s : Stamp} : Decidable s.Near :=
  decidable_of_iff (Within (2 ^ 61) s.left ∧ Within (2 ^ 61) s.top ∧ s.width ≤ 2 ^ 61 ∧
      s.height ≤ 2 ^ 61)
    ⟨fun ⟨left, top, width, height⟩ => ⟨left, top, width, height⟩,
      fun ⟨left, top, width, height⟩ => ⟨left, top, width, height⟩⟩

theorem Near.marksInside {s : Stamp} (h : s.Near) : s.MarksInside := by
  have hmax : coordinateMax = 2 ^ 63 - 1 := rfl
  obtain ⟨hleft, htop, hwidth, hheight⟩ := h
  unfold Within at hleft htop
  exact Inside.marksInside ⟨by omega, by omega⟩

end Stamp

theorem Image.rule_isSome {img : Image} {r : StrikeRule} {color : Rgba} :
    (img.rule r.x₀ r.x₁ r.y r.thickness color).isSome = true ↔ r.HasBottom := by
  unfold StrikeRule.HasBottom
  rw [Option.isSome_iff_exists, Option.isSome_iff_exists]
  simp only [rule_eq_some]
  constructor
  · rintro ⟨_, bottom, h, -⟩
    exact ⟨bottom, h⟩
  · rintro ⟨bottom, h⟩
    exact ⟨_, bottom, h, rfl⟩

namespace Caption

variable {c : Caption} {face : FontFace} {layout : CaptionLayout}

theorem paint_isSome : (c.paint face layout canvas).isSome = true ↔
    (∀ r ∈ layout.rules, r.HasBottom) ∧
      ∀ run ∈ layout.runs, ∀ s ∈ face.stamps run.text run.x run.baseline c.ink, s.MarksInside := by
  have hrules : (layout.rules.foldlM
      (fun img r => Image.rule img r.x₀ r.x₁ r.y r.thickness c.ink) canvas).isSome = true ↔
        ∀ r ∈ layout.rules, r.HasBottom := by
    refine Image.foldlM_isSome (P := StrikeRule.HasBottom) fun img r => ?_
    exact Image.rule_isSome
  have hruns (ruled : Image) : (layout.runs.foldlM
      (fun img run => face.draw img run.text run.x run.baseline c.ink) ruled).isSome = true ↔
        ∀ run ∈ layout.runs, ∀ s ∈ face.stamps run.text run.x run.baseline c.ink, s.MarksInside := by
    refine Image.foldlM_isSome fun img run => ?_
    exact FontFace.draw_isSome
  unfold paint
  rw [← hrules]
  cases layout.rules.foldlM
      (fun img r => Image.rule img r.x₀ r.x₁ r.y r.thickness c.ink) canvas with
  | none => exact iff_of_false Bool.false_ne_true fun h => Bool.false_ne_true h.1
  | some ruled => exact (hruns ruled).trans (and_iff_right rfl).symm

/-- The rules and the glyphs of a caption on a canvas of the given size. -/
def marks (width height : Nat) (c : Caption) : List StrikeRule × List Stamp :=
  match c.layout width height, c.face with
  | .ok layout, some face => (layout.rules,
      layout.runs.flatMap fun run => face.stamps run.text run.x run.baseline c.ink)
  | _, _ => ([], [])

theorem draw_eq_overflow_iff : c.draw canvas = .overflow ↔
    ¬ ((∀ r ∈ (c.marks canvas.width canvas.height).1, r.HasBottom) ∧
      ∀ s ∈ (c.marks canvas.width canvas.height).2, s.MarksInside) := by
  cases hf : c.face with
  | none =>
      have hmarks : c.marks canvas.width canvas.height = ([], []) := by
        unfold marks layout
        rw [hf]
      rw [draw_of_no_face hf]
      exact iff_of_false nofun fun h => h (by simp [hmarks])
  | some face =>
      obtain ⟨layout, hl, hd⟩ := draw_of_face canvas hf
      have hmarks : c.marks canvas.width canvas.height = (layout.rules,
          layout.runs.flatMap fun run => face.stamps run.text run.x run.baseline c.ink) := by
        unfold marks
        rw [hl, hf]
      rw [hd, Drawing.ofImage?_eq_overflow, hmarks, List.forall_mem_flatMap, ← paint_isSome]
      exact Option.not_isSome_iff_eq_none.symm

/-- The rules and the glyphs of a caption are near to zero on a canvas of the given size. -/
structure Near (width height : Nat) (c : Caption) : Prop where
  rules : ∀ r ∈ (c.marks width height).1, r.Near
  glyphs : ∀ s ∈ (c.marks width height).2, s.Near

instance {width height : Nat} {c : Caption} : Decidable (c.Near width height) :=
  decidable_of_iff ((∀ r ∈ (c.marks width height).1, r.Near) ∧
      ∀ s ∈ (c.marks width height).2, s.Near)
    ⟨fun ⟨rules, glyphs⟩ => ⟨rules, glyphs⟩, fun ⟨rules, glyphs⟩ => ⟨rules, glyphs⟩⟩

theorem Near.draw_ne_overflow (h : c.Near canvas.width canvas.height) :
    c.draw canvas ≠ .overflow := fun ho =>
  draw_eq_overflow_iff.mp ho
    ⟨fun r hr => (h.rules r hr).hasBottom, fun s hs => (h.glyphs s hs).marksInside⟩

end Caption

/-! ## Plugins -/

namespace Plugin

/-- What is drawn of a plugin is near to zero on a canvas of the given size. -/
def Near (width height : Nat) : Plugin → Prop
  | image p => p.Near width height
  | text c => c.Near width height
  | qr c => c.Near width height

instance {width height : Nat} {p : Plugin} : Decidable (p.Near width height) :=
  match p with
  | image p => inferInstanceAs (Decidable (p.Near width height))
  | text c => inferInstanceAs (Decidable (c.Near width height))
  | qr c => inferInstanceAs (Decidable (c.Near width height))

theorem Near.drawPlain_ne_overflow {p : Plugin} (hc : canvas.Small) (hs : p.Small)
    (h : p.Near canvas.width canvas.height) : p.drawPlain canvas ≠ .overflow := by
  cases p with
  | image p => exact Picture.Near.drawPlain_ne_overflow hc hs h
  | text c => exact Caption.Near.draw_ne_overflow h
  | qr c => exact Code.Near.draw_ne_overflow hc hs h

end Plugin
end Placard
