/-
# What it takes to draw a plugin

Drawing a plugin ends in one of three ways, and each of them is told by a few facts about the plugin
and the canvas.  They are taken apart here, kind by kind.

| a picture | |
| :-- | :-- |
| is drawn | its rectangle has room, there is a raster, and its place is one (`Picture.draw_eq_done`) |
| is not fit to be drawn | its rectangle has no room, or there is no raster (`Picture.plan_eq_error`) |
| overflows | a sum on the way is no coordinate |

A caption or a code that is fit to be drawn is, or it overflows.  What is drawn has the sides of the
canvas (`Plugin.draw_sides`).
-/
import Placard.Plugin.Basic
import Placard.Proofs.Raster.Extent

namespace Placard

variable {canvas img out : Image}

namespace Drawing

/-- The image that has been drawn. -/
def image? : Drawing → Option Image
  | done img => some img
  | _ => none

theorem image?_eq_some {drawing : Drawing} : drawing.image? = some img ↔ drawing = done img := by
  cases drawing <;> simp [image?]

end Drawing

/-! ## Pictures -/

namespace Picture

variable {p : Picture} {r : PixelRect} {raster : Image} {box : Nat × Nat} {e : DrawError}

theorem box_eq_some : p.box raster r = some box ↔ ∃ w h, r.width = some w ∧ r.height = some h ∧
    box = if p.isProduct ∧ raster.sides ≠ (side w, side h) then (p.width, p.height)
      else (side w, side h) := by
  unfold Picture.box
  simp only [Option.bind_eq_bind, Option.bind_eq_some_iff, Option.pure_def, Option.some.injEq]
  constructor
  · rintro ⟨w, hw, h, hh, rfl⟩
    exact ⟨w, h, hw, hh, rfl⟩
  · rintro ⟨w, h, hw, hh, rfl⟩
    exact ⟨w, hw, h, hh, rfl⟩

theorem place_eq {x y : Int64} {ax ay : Float} (hx : p.horizontalAnchor r = some (x, ax))
    (hy : p.verticalAnchor r = some (y, ay)) :
    p.place canvas img r = canvas.drawAnchored img x y ax ay (some r) := by
  unfold place
  rw [hx, hy]
  rfl

theorem place_eq_some : p.place canvas img r = some out ↔
    ∃ x ax y ay, p.horizontalAnchor r = some (x, ax) ∧ p.verticalAnchor r = some (y, ay) ∧
      canvas.drawAnchored img x y ax ay (some r) = some out := by
  unfold place
  simp only [Option.bind_eq_bind, Option.bind_eq_some_iff, Prod.exists]
  constructor
  · rintro ⟨x, ax, hx, y, ay, hy, h⟩
    exact ⟨x, ax, y, ay, hx, hy, h⟩
  · rintro ⟨x, ax, y, ay, hx, hy, h⟩
    exact ⟨x, ax, hx, y, ay, hy, h⟩

theorem plan_eq_ok : p.plan r = some (.ok (raster, box)) ↔
    r.isDegenerate = some false ∧ p.raster = some raster ∧ p.box raster r = some box := by
  unfold plan
  cases r.isDegenerate with
  | none => exact iff_of_false nofun nofun
  | some d => cases d with
    | true =>
        simp [Option.bind_eq_some_iff]
    | false =>
        cases p.raster with
        | none => exact iff_of_false nofun nofun
        | some raster => simp [Option.bind_eq_some_iff]; grind

theorem plan_eq_error : p.plan r = some (.error e) ↔
    (∃ w h, r.isDegenerate = some true ∧ r.width = some w ∧ r.height = some h ∧
      e = .degenerateRect w h) ∨
    r.isDegenerate = some false ∧ p.raster = none ∧ e = .notConfigured := by
  unfold plan
  cases r.isDegenerate with
  | none => exact iff_of_false nofun (by rintro (⟨w, h, hd, -⟩ | ⟨hd, -⟩) <;> cases hd)
  | some d => cases d with
    | true => simp [Option.bind_eq_some_iff, eq_comm (a := e)]
    | false =>
        cases p.raster with
        | none => simp [eq_comm]
        | some raster => simp [Option.bind_eq_some_iff]

theorem plan_of_isDegenerate_none (h : r.isDegenerate = none) : p.plan r = none := by
  unfold plan
  rw [h]
  rfl

theorem draw_of_plan_none (h : p.plan (p.rect.transform canvas.width canvas.height) = none) :
    p.draw canvas = (.overflow, p) := by
  unfold draw
  dsimp only
  rw [h]

theorem draw_eq_done : (p.draw canvas).1 = .done out ↔ ∃ raster box,
    p.plan (p.rect.transform canvas.width canvas.height) = some (.ok (raster, box)) ∧
      p.place canvas (p.fitted raster box).1 (p.rect.transform canvas.width canvas.height) =
        some out := by
  unfold draw
  dsimp only
  cases p.plan (p.rect.transform canvas.width canvas.height) with
  | none => simp
  | some x => cases x with
    | error e => simp
    | ok found =>
        dsimp only
        rw [Drawing.ofImage?_eq_done]
        constructor
        · exact fun h => ⟨found.1, found.2, rfl, h⟩
        · rintro ⟨raster, box, hp, h⟩
          cases hp
          exact h

theorem draw_eq_failed : (p.draw canvas).1 = .failed e ↔
    p.plan (p.rect.transform canvas.width canvas.height) = some (.error e) := by
  unfold draw
  dsimp only
  cases p.plan (p.rect.transform canvas.width canvas.height) with
  | none => simp
  | some x => cases x with
    | error e => simp
    | ok found => simp

theorem draw_sides (h : (p.draw canvas).1 = .done out) : out.sides = canvas.sides := by
  obtain ⟨raster, box, -, h⟩ := draw_eq_done.mp h
  obtain ⟨x, ax, y, ay, -, -, h⟩ := place_eq_some.mp h
  exact Image.drawAnchored_sides h

end Picture

/-! ## Captions -/

namespace Caption

variable {c : Caption} {face : FontFace} {layout : CaptionLayout} {e : DrawError}

theorem paint_eq_some : c.paint face layout canvas = some out ↔ ∃ ruled,
    layout.rules.foldlM (fun img r => img.rule r.x₀ r.x₁ r.y r.thickness c.ink) canvas =
        some ruled ∧
      layout.runs.foldlM (fun img run => face.draw img run.text run.x run.baseline c.ink) ruled =
        some out := by
  unfold paint
  rw [Option.bind_eq_bind, Option.bind_eq_some_iff]

theorem draw_of_face (canvas : Image) (h : c.face = some face) : ∃ layout,
    c.layout canvas.width canvas.height = .ok layout ∧
      c.draw canvas = .ofImage? (c.paint face layout canvas) := by
  unfold draw Caption.layout
  rw [h]
  exact ⟨_, rfl, rfl⟩

theorem draw_of_no_face (h : c.face = none) : c.draw canvas = .failed .notConfigured := by
  unfold draw layout
  rw [h]

theorem draw_eq_done : c.draw canvas = .done out ↔ ∃ face layout, c.face = some face ∧
    c.layout canvas.width canvas.height = .ok layout ∧ c.paint face layout canvas = some out := by
  cases hf : c.face with
  | none => simp [draw_of_no_face hf]
  | some face =>
      obtain ⟨layout, hl, hd⟩ := draw_of_face canvas hf
      simp [hl, hd]

theorem paint_sides (h : c.paint face layout canvas = some out) : out.sides = canvas.sides := by
  obtain ⟨ruled, hr, h⟩ := paint_eq_some.mp h
  exact (Image.foldlM_sides (fun _ _ _ => FontFace.draw_sides) h).trans
    (Image.foldlM_sides (fun _ _ _ => Image.rule_sides) hr)

theorem draw_sides (h : c.draw canvas = .done out) : out.sides = canvas.sides := by
  obtain ⟨face, layout, -, -, h⟩ := draw_eq_done.mp h
  exact paint_sides h

end Caption

/-! ## Codes -/

namespace Code

variable {c : Code} {matrix : Matrix}

/-- The symbol of a code on a canvas. -/
def symbol (c : Code) (matrix : Matrix) (canvas : Image) : Image :=
  matrix.render (toSize .halfAway (c.size * extent canvas.width)) c.foreground

theorem draw_of_matrix (h : c.matrix = some matrix) : c.draw canvas =
    .ofImage? (canvas.drawAnchored (c.symbol matrix canvas)
      (c.anchor.transform canvas.width canvas.height).1
      (c.anchor.transform canvas.width canvas.height).2 0.5 0.5 none) := by
  unfold draw
  rw [h]
  rfl

theorem draw_of_no_matrix (h : c.matrix = none) : c.draw canvas = .failed .notConfigured := by
  unfold draw
  rw [h]

theorem draw_sides (h : c.draw canvas = .done out) : out.sides = canvas.sides := by
  cases hm : c.matrix with
  | none =>
      rw [draw_of_no_matrix hm] at h
      cases h
  | some matrix =>
      rw [draw_of_matrix hm, Drawing.ofImage?_eq_done] at h
      exact Image.drawAnchored_sides h

end Code

/-! ## Plugins -/

/-- Drawing a plugin keeps the sides of the canvas. -/
theorem Plugin.draw_sides {p : Plugin} (h : (p.draw canvas).1 = .done out) :
    out.sides = canvas.sides := by
  cases p with
  | image p => exact Picture.draw_sides h
  | text c => exact Caption.draw_sides h
  | qr c => exact Code.draw_sides h

end Placard
