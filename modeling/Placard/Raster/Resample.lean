/-
# Resampling

An image is brought to another size by a windowed sinc of three lobes, first down its columns and
then along its rows, in 32-bit floating numbers and with the colors apart from the alpha.  Each
target sample is a weighted sum of the source samples around its centre; the weights of a sample
depend on its place alone and are computed once.
-/
import Placard.Raster.Fit
import Placard.Raster.Image

namespace Placard.Resample

/-- The four channels of a pixel as numbers. -/
structure Sample where
  red : Float32
  green : Float32
  blue : Float32
  alpha : Float32

def Sample.ofPixel (p : Rgba) : Sample :=
  ⟨p.red.toFloat32, p.green.toFloat32, p.blue.toFloat32, p.alpha.toFloat32⟩

def Sample.toPixel (s : Sample) : Rgba :=
  ⟨nearestByte s.red, nearestByte s.green, nearestByte s.blue, nearestByte s.alpha⟩

instance : Inhabited Sample := ⟨⟨0, 0, 0, 0⟩⟩

/-- Half the circumference of the unit circle. -/
def halfTurn : Float32 := Float32.ofBits 0x40490FDB

/-- The sine of `π t` over `π t`. -/
def sinc (t : Float32) : Float32 :=
  if t == 0 then 1 else let a := t * halfTurn; Float32.sin a / a

/-- The kernel: a sinc, windowed by a sinc three times as wide. -/
def kernel (x : Float32) : Float32 := if Float32.abs x < 3 then sinc x * sinc (x / 3) else 0

def single (n : Nat) : Float32 := (UInt64.ofNat n).toFloat32

/-- The source samples that a target sample is made of, from `first` on. -/
structure Window where
  first : Nat
  weights : Array Float32

/-- The window of target sample `o` on an axis of `source` samples brought to `target`. -/
def Window.at (source target o : Nat) : Window :=
  let ratio := single source / single target
  let stretch := if ratio < 1 then 1 else ratio
  let support := 3 * stretch
  let centre := (single o + 0.5) * ratio
  let left := ((Binary.ofFloat32 (centre - support)).toInt .down 0 (source - 1 : Int)).toNat
  let right := ((Binary.ofFloat32 (centre + support)).toInt .up (left + 1) source).toNat
  let middle := centre - 0.5
  let raw := (List.range' left (right - left)).map fun i => kernel ((single i - middle) / stretch)
  let total := raw.foldl (· + ·) 0
  ⟨left, (raw.map (· / total)).toArray⟩

def windows (source target : Nat) : Array Window :=
  ((List.range target).map (Window.at source target)).toArray

/-- The sum of the samples of a window from weight `k` on, added to what is there already; the
samples lie `stride` apart. -/
def weigh (samples : Array Sample) (weights : Array Float32) (stride : Nat) :
    (count k index : Nat) → (red green blue alpha : Float32) → Sample
  | 0, _, _, red, green, blue, alpha => ⟨red, green, blue, alpha⟩
  | count + 1, k, index, red, green, blue, alpha =>
    let w := weights.getD k 0
    let s := samples.getD index default
    weigh samples weights stride count (k + 1) (index + stride)
      (red + s.red * w) (green + s.green * w) (blue + s.blue * w) (alpha + s.alpha * w)

/-- The target sample of a window whose axis begins at place `start`. -/
def Window.apply (w : Window) (samples : Array Sample) (start stride : Nat) : Sample :=
  weigh samples w.weights stride w.weights.size 0 (start + w.first * stride) 0 0 0 0

/-- The image brought to a size of at least one pixel; from an image without pixels nothing can be
made but a transparent one. -/
def resample (img : Image) (width height : Nat) : Image :=
  if img.width = 0 ∨ img.height = 0 then .filled width height .transparent
  else
    let source := img.pixels.map Sample.ofPixel
    let down := windows img.height height
    let tall : Array Sample := Array.ofFn fun i : Fin (img.width * height) =>
      match down[i / img.width]? with
      | some w => w.apply source (i % img.width) img.width
      | none => default
    let along := windows img.width width
    ⟨width, height, Array.ofFn fun i : Fin (width * height) =>
      match along[i % width]? with
      | some w => (w.apply tall (i / width * img.width) 1).toPixel
      | none => default,
      Array.size_ofFn⟩

end Placard.Resample

namespace Placard.Image

/-- The image at exactly the given size. -/
def resizeTo (img : Image) (width height : Nat) : Image :=
  if img.width = width ∧ img.height = height then img
  else Resample.resample img (max width 1) (max height 1)

/-- The image fitted into a box. -/
def resize (img : Image) (mode : FitMode) (width height : Nat) : Image :=
  let size := mode.target Float img.width img.height width height
  img.resizeTo size.1 size.2

end Placard.Image
