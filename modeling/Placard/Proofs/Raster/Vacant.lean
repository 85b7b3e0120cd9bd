/-
# Rectangles without a pixel

The overlap of two rectangles has the inner ones of their edges, so it contains just the pixels
that lie in both (`contains_intersect`).  A rectangle is vacant if no pixel lies in it, and that is
so just if its edges are in the wrong order or meet (`not_vacant_iff`).

Whether a rectangle is degenerate is asked another way: by the distances between its edges.  Where
they tell, they tell the same (`isDegenerate_eq_decide`).  But not every distance between two
coordinates is a coordinate.

| the distance from edge to edge | |
| :-- | :-- |
| below `-2 ^ 63` | has no value |
| from `-2 ^ 63` to zero | not positive |
| above zero and below `2 ^ 63` | positive |
| from `2 ^ 63` on | has no value |

So a picture whose rectangle reaches far enough to both sides is not drawn, although the canvas lies
in the middle of it (`overlap_and_vacancy`).
-/
import Mathlib.Tactic.ByContra
import Placard.Proofs.Failure
import Placard.Proofs.Geometry
import Placard.Proofs.Plugin.Drawn

namespace Placard

namespace PixelRect

variable {r s : PixelRect} {x y : Int64}

/-! ## Pixels -/

theorem contains_intersect :
    (r.intersect s).contains x y = true ↔ r.contains x y = true ∧ s.contains x y = true := by
  rw [contains_iff_covers, contains_iff_covers, contains_iff_covers]
  exact covers_intersect

/-- No pixel lies in the rectangle. -/
def Vacant (r : PixelRect) : Prop := ∀ x y : Int64, r.contains x y = false

theorem not_vacant_of_contains (h : r.contains x y = true) : ¬ r.Vacant := fun hv =>
  Bool.false_ne_true ((hv x y).symm.trans h)

theorem not_vacant_iff : ¬ r.Vacant ↔ 0 < r.columns ∧ 0 < r.rows := by
  unfold columns rows
  constructor
  · intro h
    by_contra hnone
    refine h fun x y => Bool.eq_false_iff.mpr fun hin => hnone ?_
    obtain ⟨hleft, hright, htop, hbottom⟩ := contains_iff_covers.mp hin
    omega
  · rintro ⟨hcolumns, hrows⟩
    have hcorner : r.Covers r.left.toInt r.top.toInt :=
      ⟨Int.le_refl _, by omega, Int.le_refl _, by omega⟩
    exact not_vacant_of_contains (contains_iff_covers.mpr hcorner)

theorem vacant_iff : r.Vacant ↔ r.columns ≤ 0 ∨ r.rows ≤ 0 := by
  have h := not_vacant_iff (r := r)
  constructor
  · intro hv
    by_contra hpos
    exact h.mpr (by omega) hv
  · intro hle
    by_contra hv
    have hpos := h.mp hv
    omega

/-! ## Degenerate and vacant -/

/-- A rectangle is degenerate just if it is vacant, where the question has an answer. -/
theorem degenerate_iff_vacant {d : Bool} (h : r.isDegenerate = some d) : d = true ↔ r.Vacant := by
  rw [vacant_iff]
  cases d with
  | true =>
      have hd := isDegenerate_eq_true.mp h
      exact iff_of_true rfl (by omega)
  | false =>
      have hd := isDegenerate_eq_false.mp h
      exact iff_of_false Bool.false_ne_true (by omega)

/-- With a pixel in it, there is no answer just if one of the sides is too long. -/
theorem isDegenerate_eq_none_of_contains (h : r.contains x y = true) :
    r.isDegenerate = none ↔ 2 ^ 63 ≤ r.columns ∨ 2 ^ 63 ≤ r.rows := by
  obtain ⟨hcolumns, hrows⟩ := not_vacant_iff.mp (not_vacant_of_contains h)
  rw [isDegenerate_eq_none]
  unfold IsSide
  omega

end PixelRect

namespace Picture

variable {p : Picture} {canvas : Image} {r : PixelRect} {w h : Int64}

/-- A picture is rejected for a rectangle only if that is degenerate. -/
theorem isDegenerate_of_failed (hr : p.rect.transform canvas.width canvas.height = r)
    (hd : (p.draw canvas).1 = .failed (.degenerateRect w h)) : r.isDegenerate = some true := by
  rw [draw_eq_failed, hr, plan_eq_error] at hd
  obtain ⟨_, _, hd, -⟩ | ⟨-, -, he⟩ := hd
  · exact hd
  · cases he

theorem draw_overflow_of_isDegenerate (hr : p.rect.transform canvas.width canvas.height = r)
    (hd : r.isDegenerate = none) : (p.draw canvas).1 = .overflow := by
  rw [draw_of_plan_none (hr ▸ plan_of_isDegenerate_none hd)]

end Picture

namespace PixelRect

/-- The overlap of two rectangles contains just the pixels that both contain.  Whether a rectangle is
degenerate has an answer if the distance of its outer edges is a coordinate and, where that distance
is above zero, so is the other one; and then it is degenerate just if it is vacant.  So a picture
whose rectangle has a pixel in it, on the canvas or off it, is never rejected as degenerate; but it
overflows if the rectangle has `2 ^ 63` columns or rows or more. -/
theorem overlap_and_vacancy (a b : PixelRect) :
    (∀ x y, (a.intersect b).contains x y = true ↔ a.contains x y = true ∧ b.contains x y = true) ∧
      (a.isDegenerate = none ↔ ¬ IsSide a.columns ∨ 0 < a.columns ∧ ¬ IsSide a.rows) ∧
      (∀ d, a.isDegenerate = some d → (d = true ↔ a.Vacant)) ∧
      ∀ (p : Picture) (canvas : Image) (x y : Int64),
        p.rect.transform canvas.width canvas.height = a → a.contains x y = true →
        (∀ w h, (p.draw canvas).1 ≠ .failed (.degenerateRect w h)) ∧
          (a.isDegenerate = none ↔ 2 ^ 63 ≤ a.columns ∨ 2 ^ 63 ≤ a.rows) ∧
          (a.isDegenerate = none → (p.draw canvas).1 = .overflow) := by
  refine ⟨fun x y => contains_intersect, isDegenerate_eq_none, fun d => degenerate_iff_vacant,
    fun p canvas x y hr hin => ⟨fun w h hd => ?_, isDegenerate_eq_none_of_contains hin,
      Picture.draw_overflow_of_isDegenerate hr⟩⟩
  have hdegenerate := Picture.isDegenerate_of_failed hr hd
  exact not_vacant_of_contains hin ((degenerate_iff_vacant hdegenerate).mp rfl)

/-- A picture whose rectangle reaches `2 ^ 62` columns to the left of the only pixel of the canvas,
and nearly as far to the right, is not rejected. -/
theorem overlap_and_vacancy_of_wide :
    let p : Picture := { rect := ⟨-4611686018427387904, 0, 4611686018427387392, 1⟩ }
    let canvas := Image.filled 1 1 .white
    let r : PixelRect := ⟨-4611686018427387904, 0, 4611686018427387392, 1⟩
    p.rect.transform canvas.width canvas.height = r ∧ canvas.bounds.contains 0 0 = true ∧
      r.contains 0 0 = true ∧ (r.intersect canvas.bounds).contains 0 0 = true ∧
      r.isDegenerate = some false ∧ ¬ r.Vacant ∧
      ∀ w h, (p.draw canvas).1 ≠ .failed (.degenerateRect w h) := by
  intro p canvas r
  have hr : p.rect.transform canvas.width canvas.height = r := by decide +kernel
  have hcanvas : canvas.bounds.contains 0 0 = true := by decide
  have hin : r.contains 0 0 = true := by decide
  have hd : r.isDegenerate = some false := by decide
  obtain ⟨hboth, -, hvacant, hrejected⟩ := overlap_and_vacancy r canvas.bounds
  exact ⟨hr, hcanvas, hin, (hboth 0 0).mpr ⟨hin, hcanvas⟩, hd,
    fun hv => Bool.false_ne_true ((hvacant false hd).mpr hv), (hrejected p canvas 0 0 hr hin).1⟩

/-- With its edges at the ends of the range, a rectangle around the canvas has no width, and neither
has the same rectangle inverted, though no pixel lies in it: whether they are degenerate has no
answer, and a picture with the former overflows. -/
theorem degenerate_without_answer :
    let r : PixelRect := ⟨-9223372036854775808, 0, 9223372036854775807, 1⟩
    let s : PixelRect := ⟨9223372036854775807, 0, -9223372036854775808, 1⟩
    let canvas := Image.filled 1 1 .white
    let source : AssetSource := .ofPictures [("a", .filled 1 1 .black)]
    r.contains 0 0 = true ∧ r.isDegenerate = none ∧ s.Vacant ∧ s.isDegenerate = none ∧
      canvas.bounds.contains 0 0 = true ∧
      ∃ p, Picture.configure { image := "a", rect := ⟨-1e300, 0, 1e300, 1⟩ } source = .ok p ∧
        p.rect.transform canvas.width canvas.height = r ∧ (p.draw canvas).1 = .overflow := by
  intro r s canvas source
  have hr : r.isDegenerate = none := by decide
  have hp : ((Picture.configure { image := "a", rect := ⟨-1e300, 0, 1e300, 1⟩ }
      source).toOption.any fun p =>
        decide (p.rect.transform canvas.width canvas.height = r)) = true := by
    decide +kernel
  obtain ⟨p, hp, hrect⟩ := any_toOption.mp hp
  have hrect : p.rect.transform canvas.width canvas.height = r := of_decide_eq_true hrect
  exact ⟨by decide, hr, vacant_iff.mpr (by decide), by decide, by decide, p, hp, hrect,
    Picture.draw_overflow_of_isDegenerate hrect hr⟩

end PixelRect
end Placard
