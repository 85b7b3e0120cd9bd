/-
# Drawing keeps the sides of an image

Every drawing operation changes the pixels of a region and nothing else (`updateWithin_sides`), or has
no result.  So the sides of a canvas are the same whatever has been drawn on it, and what is drawn at
a place given by fractions of the sides, such as the rectangle of a picture, does not depend on what
was drawn before.

What it takes for an operation to have a result is said here too (`rule_eq_some`, `draw_eq_some`,
`drawAnchored_eq_some`, `Stamp.draw_eq_some`): all that is proved of drawing begins there.
-/
import Placard.Font.Face
import Placard.Raster.Canvas
import Placard.Raster.Resample

namespace Placard

namespace Image

def sides (img : Image) : Nat × Nat := (img.width, img.height)

/-- The sides have 32 bits. -/
def Small (img : Image) : Prop := img.width < UInt32.size ∧ img.height < UInt32.size

variable {img src out : Image} {x y : Int64} {clip : Option PixelRect}

theorem Small.of_sides {a b : Image} (h : a.Small) (hs : b.sides = a.sides) : b.Small := by
  obtain ⟨hw, hh⟩ := Prod.mk.inj hs
  exact ⟨hw ▸ h.1, hh ▸ h.2⟩

/-! ## Operations that have a result -/

theorem rule_eq_some {x₀ x₁ y thickness : Float} {color : Rgba} :
    img.rule x₀ x₁ y thickness color = some out ↔
      ∃ bottom, plus? (ruleTop y thickness) (nearest (ruleThickness thickness)) = some bottom ∧
        out = img.fill ⟨nearest (lesser x₀ x₁), ruleTop y thickness, nearest (greater x₀ x₁), bottom⟩
          color := by
  simp only [rule, ruleRect, Option.bind_eq_bind, Option.bind_assoc, Option.bind_eq_some_iff,
    Option.bind_some, Option.pure_def, Option.some.injEq, eq_comm (a := out)]

/-- The part of an image that is gone through when another one is laid over it, if its corners are
coordinates. -/
def overlap? (img src : Image) (x y : Int64) (clip : Option PixelRect) : Option PixelRect :=
  (placeAt x y src.width src.height).map fun place => (place.intersect img.bounds).clipped clip

theorem draw_eq : img.draw src x y clip = do
    let visible ← img.overlap? src x y clip
    if ← visible.isDegenerate then return img
    else return img.updateWithin visible fun px py => src.layPixel (px - x) (py - y) := by
  unfold draw overlap?
  rw [Option.bind_eq_bind, Option.bind_eq_bind, Option.bind_map]
  rfl

/-- An image is laid over another one if the overlap is known to be degenerate or not, and then that
is done pixel by pixel. -/
theorem draw_eq_some : img.draw src x y clip = some out ↔
    ∃ visible, img.overlap? src x y clip = some visible ∧
      (visible.isDegenerate = some true ∧ out = img ∨ visible.isDegenerate = some false ∧
        out = img.updateWithin visible fun px py => src.layPixel (px - x) (py - y)) := by
  rw [draw_eq, Option.bind_eq_bind, Option.bind_eq_some_iff]
  refine exists_congr fun visible => and_congr_right' ?_
  rw [Option.bind_eq_bind, Option.bind_eq_some_iff]
  simp [eq_comm (a := out), or_comm]

theorem drawAnchored_eq_some {ax ay : Float} : img.drawAnchored src x y ax ay clip = some out ↔
    ∃ left top, minus? x (truncated (ax * extent src.width)) = some left ∧
      minus? y (truncated (ay * extent src.height)) = some top ∧
      img.draw src left top clip = some out := by
  unfold drawAnchored
  simp only [Option.bind_eq_bind, Option.bind_eq_some_iff]
  constructor
  · rintro ⟨left, hleft, top, htop, h⟩
    exact ⟨left, top, hleft, htop, h⟩
  · rintro ⟨left, top, hleft, htop, h⟩
    exact ⟨left, hleft, top, htop, h⟩

/-- What each drawing of a sequence keeps, the sequence keeps. -/
theorem foldlM_keeps {α : Type} {P : Image → Prop} {f : Image → α → Option Image}
    (hf : ∀ img a out, P img → f img a = some out → P out) {as : List α} (h : P img)
    (hout : as.foldlM f img = some out) : P out := by
  induction as generalizing img with
  | nil =>
      cases hout
      exact h
  | cons a as ih =>
      rw [List.foldlM_cons, Option.bind_eq_bind, Option.bind_eq_some_iff] at hout
      obtain ⟨next, hnext, hout⟩ := hout
      exact ih (hf img a next h hnext) hout

/-- A sequence of drawings has a result just if each of them has one, if that does not depend on what
was drawn before. -/
theorem foldlM_isSome {α : Type} {as : List α} {f : Image → α → Option Image} {P : α → Prop}
    (hf : ∀ img a, (f img a).isSome = true ↔ P a) :
    (as.foldlM f img).isSome = true ↔ ∀ a ∈ as, P a := by
  induction as generalizing img with
  | nil => exact iff_of_true rfl (fun _ h => absurd h List.not_mem_nil)
  | cons a as ih =>
      rw [List.foldlM_cons, List.forall_mem_cons, ← hf img a]
      cases f img a with
      | none => exact iff_of_false Bool.false_ne_true fun h => Bool.false_ne_true h.1
      | some next => exact ih.trans (and_iff_right rfl).symm

/-! ## Sides -/

@[simp] theorem updateWithin_sides {rect : PixelRect} {f : Int64 → Int64 → Rgba → Rgba} :
    (img.updateWithin rect f).sides = img.sides := by
  unfold updateWithin
  dsimp only
  split
  · rfl
  · rfl

@[simp] theorem fill_sides {rect : PixelRect} {color : Rgba} :
    (img.fill rect color).sides = img.sides := updateWithin_sides

theorem rule_sides {x₀ x₁ y thickness : Float} {color : Rgba}
    (h : img.rule x₀ x₁ y thickness color = some out) : out.sides = img.sides := by
  obtain ⟨bottom, -, rfl⟩ := rule_eq_some.mp h
  exact fill_sides

theorem draw_sides (h : img.draw src x y clip = some out) : out.sides = img.sides := by
  obtain ⟨visible, -, ⟨-, rfl⟩ | ⟨-, rfl⟩⟩ := draw_eq_some.mp h
  · rfl
  · exact updateWithin_sides

theorem drawAnchored_sides {ax ay : Float} (h : img.drawAnchored src x y ax ay clip = some out) :
    out.sides = img.sides := by
  obtain ⟨left, top, -, -, h⟩ := drawAnchored_eq_some.mp h
  exact draw_sides h

theorem foldlM_sides {α : Type} {f : Image → α → Option Image}
    (hf : ∀ img a out, f img a = some out → out.sides = img.sides) {as : List α}
    (h : as.foldlM f img = some out) : out.sides = img.sides :=
  foldlM_keeps (P := fun i => i.sides = img.sides) (fun i a o hi ho => (hf i a o ho).trans hi) rfl h

@[simp] theorem canvas_sides {width height : Nat} {background : Option Rgba} :
    (canvas width height background).sides = (width, height) := by
  cases background <;> rfl

@[simp] theorem resample_sides {width height : Nat} :
    (Resample.resample img width height).sides = (width, height) := by
  unfold Resample.resample
  split
  · rfl
  · rfl

theorem resizeTo_sides {width height : Nat} (hw : 0 < width) (hh : 0 < height) :
    (img.resizeTo width height).sides = (width, height) := by
  unfold resizeTo
  split
  · rename_i hsame
    exact Prod.ext hsame.1 hsame.2
  · exact resample_sides.trans (Prod.ext (Nat.max_eq_left hw) (Nat.max_eq_left hh))

end Image

/-! ## Text -/

namespace Stamp

variable {img out : Image} {s : Stamp}

theorem draw_eq_some : Stamp.draw img s = some out ↔ s.MarksInside ∧
    out = img.updateWithin s.rect fun px py =>
      (s.mark? (px - s.left).toNatClampNeg (py - s.top).toNatClampNeg).getD id := by
  unfold draw
  split
  · rename_i h
    rw [Option.some.injEq, eq_comm]
    exact (and_iff_right h).symm
  · rename_i h
    exact iff_of_false nofun fun hs => h hs.1

theorem draw_isSome : (Stamp.draw img s).isSome = true ↔ s.MarksInside := by
  unfold draw
  split
  · exact iff_of_true rfl ‹_›
  · exact iff_of_false Bool.false_ne_true ‹_›

theorem draw_sides (h : Stamp.draw img s = some out) : out.sides = img.sides := by
  obtain ⟨-, rfl⟩ := draw_eq_some.mp h
  exact Image.updateWithin_sides

end Stamp

theorem FontFace.draw_isSome {face : FontFace} {img : Image} {text : String} {x baseline : Float}
    {color : Rgba} : (face.draw img text x baseline color).isSome = true ↔
      ∀ s ∈ face.stamps text x baseline color, s.MarksInside :=
  Image.foldlM_isSome (P := Stamp.MarksInside) fun _ _ => Stamp.draw_isSome

theorem FontFace.draw_sides {face : FontFace} {img out : Image} {text : String} {x baseline : Float}
    {color : Rgba} (h : face.draw img text x baseline color = some out) : out.sides = img.sides :=
  Image.foldlM_sides (fun _ _ _ => Stamp.draw_sides) h

end Placard
