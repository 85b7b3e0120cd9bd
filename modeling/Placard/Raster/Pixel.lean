/-
# Pixels

A pixel has three color channels and an alpha channel, of eight bits each, and the colors are not
multiplied by the alpha.  `sourceOver` lays one pixel over another; the arithmetic is that of 32-bit
floating numbers, and an opaque pixel stays opaque.
-/

namespace Placard

/-- A color with its opacity. -/
structure Rgba where
  red : UInt8
  green : UInt8
  blue : UInt8
  alpha : UInt8
  deriving DecidableEq, Repr, Inhabited

namespace Rgba

def white : Rgba := ⟨255, 255, 255, 255⟩

def black : Rgba := ⟨0, 0, 0, 255⟩

/-- Nothing at all. -/
def transparent : Rgba := ⟨0, 0, 0, 0⟩

end Rgba

/-- The byte nearest to a number, halves going up; what is not a number counts as zero. -/
def nearestByte (x : Float32) : UInt8 :=
  let below := x.toUInt8
  if 0.5 ≤ x - below.toFloat32 && below < 255 then below + 1 else below

/-- The number, moved into the interval from zero to one. -/
def clampUnit (x : Float32) : Float32 := if x < 0 then 0 else if 1 < x then 1 else x

/-- The alpha of a color that covers only part of a pixel. -/
def coveredAlpha (alpha : UInt8) (coverage : Float32) : UInt8 :=
  nearestByte (alpha.toFloat32 * clampUnit coverage)

/-- The color of `src`, with the opacity `alpha`, laid over `dst`. -/
def sourceOver (dst src : Rgba) (alpha : UInt8) : Rgba :=
  if alpha = 255 then { src with alpha := 255 }
  else
    let sa := alpha.toFloat32 / 255
    let da := dst.alpha.toFloat32 / 255
    let out := sa + da * (1 - sa)
    if out ≤ 0 then .transparent
    else
      let channel (s d : UInt8) : UInt8 :=
        nearestByte ((s.toFloat32 * sa + d.toFloat32 * da * (1 - sa)) / out)
      { red := channel src.red dst.red
        green := channel src.green dst.green
        blue := channel src.blue dst.blue
        alpha := if dst.alpha = 255 then 255 else nearestByte (out * 255) }

/-- `color` laid over `dst` where it covers the pixel to the given part. -/
def blendOver (dst color : Rgba) (coverage : Float32) : Rgba :=
  let alpha := coveredAlpha color.alpha coverage
  if alpha = 0 then dst else sourceOver dst color alpha

/-- A pixel of an image laid over `dst`; a transparent one leaves it alone. -/
def pixelOver (dst src : Rgba) : Rgba :=
  if src.alpha = 0 then dst else sourceOver dst src src.alpha

end Placard
