/-
# Drawing

What can be drawn on an image: a single pixel that is partly covered, a filled rectangle, a
horizontal rule and another image.  Whatever falls outside the image is left out.  A drawing whose
place takes a sum of coordinates that is none has no result.
-/
import Placard.Raster.Image

namespace Placard.Image

/-- A fresh canvas: transparent, or filled with a background that can be seen. -/
def canvas (width height : Nat) (background : Option Rgba) : Image :=
  match background with
  | some color => filled width height (if color.alpha = 0 then .transparent else color)
  | none => filled width height .transparent

/-- Lays `color` over the pixel at `(x, y)`, which it covers to the given part. -/
def blend (img : Image) (x y : Int64) (color : Rgba) (coverage : Float32) : Image :=
  if img.bounds.contains x y then
    img.updateBlock x.toNatClampNeg y.toNatClampNeg 1 1 fun _ _ old => blendOver old color coverage
  else img

def fill (img : Image) (rect : PixelRect) (color : Rgba) : Image :=
  img.updateWithin rect fun _ _ old => blendOver old color 1

/-- The thickness of a rule, which is at least one pixel. -/
def ruleThickness (thickness : Float) : Float :=
  if thickness < 1 ∨ thickness.isNaN then 1 else thickness

def ruleTop (y thickness : Float) : Int64 := nearest (y - ruleThickness thickness / 2)

/-- The pixels of a rule from `x₀` to `x₁` around the height `y`. -/
def ruleRect (x₀ x₁ y thickness : Float) : Option PixelRect := do
  return {
    left := nearest (lesser x₀ x₁)
    top := ruleTop y thickness
    right := nearest (greater x₀ x₁)
    bottom := ← plus? (ruleTop y thickness) (nearest (ruleThickness thickness)) }

def rule (img : Image) (x₀ x₁ y thickness : Float) (color : Rgba) : Option Image := do
  return img.fill (← ruleRect x₀ x₁ y thickness) color

/-- The place of an image with its corner at `(x, y)`. -/
def placeAt (x y : Int64) (width height : Nat) : Option PixelRect := do
  return ⟨x, y, ← plus? x (.ofNat width), ← plus? y (.ofNat height)⟩

/-- Lays one of the pixels of an image over another pixel. -/
def layPixel (src : Image) (column row : Int64) (old : Rgba) : Rgba :=
  match src.pixel? column.toNatClampNeg row.toNatClampNeg with
  | some p => pixelOver old p
  | none => old

/-- Lays `src` over the image with its corner at `(x, y)`, as far as it lies within `clip`.  The
distances of a visible pixel from the corner are columns and rows of `src`. -/
def draw (img src : Image) (x y : Int64) (clip : Option PixelRect) : Option Image := do
  let visible := ((← placeAt x y src.width src.height).intersect img.bounds).clipped clip
  if ← visible.isDegenerate then return img
  else return img.updateWithin visible fun px py => src.layPixel (px - x) (py - y)

/-- Lays `src` over the image so that its point at the fractions `(ax, ay)` of its sides comes to
lie on `(x, y)`. -/
def drawAnchored (img src : Image) (x y : Int64) (ax ay : Float) (clip : Option PixelRect) :
    Option Image := do
  let left ← minus? x (truncated (ax * extent src.width))
  let top ← minus? y (truncated (ay * extent src.height))
  img.draw src left top clip

end Placard.Image
