/-
# Places on a canvas

A template writes its places as fractions of the canvas, so that it renders at every width it
allows.  `FractionPoint` and `FractionRect` are such places; `PixelRect` is what a `FractionRect`
comes to once the canvas has a size.  Nothing is clamped: a place may lie partly or wholly off the
canvas, and a rectangle may be inverted.

Pixel coordinates are signed 64-bit words.  A sum of two of them that is not such a word itself breaks
off whatever is done: it has no value here (`plus?`, `minus?`), and nothing that takes it has one.
-/
import Placard.Number.Binary

namespace Placard

/-! ## Coordinates -/

/-- The coordinate for a whole number, if there is one. -/
def coordinate? (z : Int) : Option Int64 :=
  if coordinateMin ≤ z ∧ z ≤ coordinateMax then some (Int64.ofInt z) else none

/-- The exact sum of two coordinates, if it is a coordinate. -/
def plus? (a b : Int64) : Option Int64 := coordinate? (a.toInt + b.toInt)

/-- The exact difference of two coordinates, if it is a coordinate. -/
def minus? (a b : Int64) : Option Int64 := coordinate? (a.toInt - b.toInt)

/-! ## Fractions of a canvas -/

/-- A size in pixels as a number. -/
def extent (n : Nat) : Float := (UInt64.ofNat n).toFloat

/-- The pixel at a fraction of an extent. -/
def scale (fraction : Float) (size : Nat) : Int64 := nearest (fraction * extent size)

/-- A point in fractions of the canvas. -/
structure FractionPoint where
  x : Float
  y : Float

def FractionPoint.transform (p : FractionPoint) (width height : Nat) : Int64 × Int64 :=
  (scale p.x width, scale p.y height)

/-- A rectangle with its edges in fractions of the canvas. -/
structure FractionRect where
  left : Float
  top : Float
  right : Float
  bottom : Float

/-- The rectangle with an edge at zero on its right or its bottom moved to the full extent: that is
how a template leaves the edge out. -/
def FractionRect.normalized (r : FractionRect) : FractionRect :=
  { r with
    right := if r.right == 0 then 1 else r.right
    bottom := if r.bottom == 0 then 1 else r.bottom }

/-! ## Rectangles of pixels -/

/-- A rectangle of pixels; its right and bottom edges are exclusive. -/
structure PixelRect where
  left : Int64
  top : Int64
  right : Int64
  bottom : Int64
  deriving DecidableEq, Repr

/-- The pixels of a rectangle on a canvas, each edge on its own. -/
def FractionRect.transform (r : FractionRect) (width height : Nat) : PixelRect :=
  { left := scale r.left width
    top := scale r.top height
    right := scale r.right width
    bottom := scale r.bottom height }

namespace PixelRect

def ofSize (width height : Nat) : PixelRect := ⟨0, 0, Int64.ofNat width, Int64.ofNat height⟩

/-- The exact distance from the left to the right edge. -/
def columns (r : PixelRect) : Int := r.right.toInt - r.left.toInt

/-- The exact distance from the top to the bottom edge. -/
def rows (r : PixelRect) : Int := r.bottom.toInt - r.top.toInt

/-- The distance from the left to the right edge, if it is a coordinate. -/
def width (r : PixelRect) : Option Int64 := minus? r.right r.left

/-- The distance from the top to the bottom edge, if it is a coordinate. -/
def height (r : PixelRect) : Option Int64 := minus? r.bottom r.top

/-- The rectangle is empty or inverted.  Its height is not asked for if its width tells. -/
def isDegenerate (r : PixelRect) : Option Bool := do
  if (← r.width) ≤ 0 then return true
  return (← r.height) ≤ 0

/-- The middle of the rectangle; halves go towards zero. -/
def center (r : PixelRect) : Option (Int64 × Int64) := do
  return ((← plus? r.left r.right) / 2, (← plus? r.top r.bottom) / 2)

def contains (r : PixelRect) (x y : Int64) : Bool :=
  r.left ≤ x && x < r.right && r.top ≤ y && y < r.bottom

/-- The overlap of two rectangles, which may be empty or inverted. -/
def intersect (a b : PixelRect) : PixelRect :=
  { left := max a.left b.left
    top := max a.top b.top
    right := min a.right b.right
    bottom := min a.bottom b.bottom }

/-- The part of the rectangle that lies within a clip, if there is one. -/
def clipped (r : PixelRect) : Option PixelRect → PixelRect
  | some c => r.intersect c
  | none => r

end PixelRect
end Placard
