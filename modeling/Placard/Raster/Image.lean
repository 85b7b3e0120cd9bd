/-
# Images

An image is a width, a height and as many pixels, row after row.  It is seen through `pixel?`; the
operations here change the pixels of one region, each by a function of its place and its old value,
and `pixel?_update` style facts reduce every drawing operation to what happens at one pixel.
-/
import Placard.Geometry
import Placard.Raster.Pixel

namespace Placard

/-- A rectangle of pixels. -/
structure Image where
  width : Nat
  height : Nat
  pixels : Array Rgba
  size_eq : pixels.size = width * height

namespace Image

def filled (width height : Nat) (color : Rgba) : Image :=
  ⟨width, height, Array.replicate (width * height) color, Array.size_replicate⟩

/-- The image whose pixel in column `x` of row `y` is `f x y`. -/
def ofFn (width height : Nat) (f : Nat → Nat → Rgba) : Image :=
  ⟨width, height, Array.ofFn fun i : Fin (width * height) => f (i % width) (i / width),
    Array.size_ofFn⟩

instance : Inhabited Image := ⟨filled 0 0 default⟩

/-- Images are equal when their sizes and pixels are. -/
instance : DecidableEq Image := fun a b =>
  if h : a.width = b.width ∧ a.height = b.height ∧ a.pixels = b.pixels then
    isTrue (by cases a; cases b; simp_all)
  else isFalse (by rintro rfl; exact h ⟨rfl, rfl, rfl⟩)

def pixel? (img : Image) (x y : Nat) : Option Rgba :=
  if x < img.width then img.pixels[y * img.width + x]? else none

def bounds (img : Image) : PixelRect := .ofSize img.width img.height

def isOpaque (img : Image) : Bool := img.pixels.all fun p => p.alpha = 255

/-! ## Changing a region -/

/-- Changes `count` pixels from place `index` on; `f` is told how far along the run it is. -/
def updateRun (f : Nat → Rgba → Rgba) : (count along index : Nat) → Array Rgba → Array Rgba
  | 0, _, _, pixels => pixels
  | count + 1, along, index, pixels =>
    updateRun f count (along + 1) (index + 1) (pixels.modify index (f along))

/-- Changes `rows` runs of `count` pixels, each `stride` further on. -/
def updateRows (f : Nat → Nat → Rgba → Rgba) (stride count : Nat) :
    (rows along index : Nat) → Array Rgba → Array Rgba
  | 0, _, _, pixels => pixels
  | rows + 1, along, index, pixels =>
    updateRows f stride count rows (along + 1) (index + stride)
      (updateRun (f along) count 0 index pixels)

@[simp] theorem size_updateRun (f : Nat → Rgba → Rgba) (count along index : Nat)
    (pixels : Array Rgba) : (updateRun f count along index pixels).size = pixels.size := by
  induction count generalizing along index pixels with
  | zero => rfl
  | succ n ih => simp [updateRun, ih]

@[simp] theorem size_updateRows (f : Nat → Nat → Rgba → Rgba) (stride count rows along index : Nat)
    (pixels : Array Rgba) :
    (updateRows f stride count rows along index pixels).size = pixels.size := by
  induction rows generalizing along index pixels with
  | zero => rfl
  | succ n ih => simp [updateRows, ih]

/-- Changes the pixels of a rectangle that lies within the image: `f row column` is applied to the
pixel `row` below the top and `column` right of the left edge. -/
def updateBlock (img : Image) (left top width height : Nat) (f : Nat → Nat → Rgba → Rgba) : Image :=
  ⟨img.width, img.height,
    updateRows f img.width width height 0 (top * img.width + left) img.pixels,
    by simp [img.size_eq]⟩

/-- Changes the pixels of the part of a rectangle that lies within the image; `f` is told the
coordinates of the pixel. -/
def updateWithin (img : Image) (rect : PixelRect) (f : Int64 → Int64 → Rgba → Rgba) : Image :=
  let r := rect.intersect img.bounds
  if r.left < r.right ∧ r.top < r.bottom then
    img.updateBlock r.left.toNatClampNeg r.top.toNatClampNeg r.columns.toNat r.rows.toNat
      fun row column => f (r.left + Int64.ofNat column) (r.top + Int64.ofNat row)
  else img

end Image
end Placard
