/-
# Bitmap text

The ink of the built-in face.  A character without a glyph shows as a hollow box, or as nothing if
it is a blank.  At another size than its own a glyph is enlarged by taking for each pixel of its
cell the glyph pixel that it falls on.
-/
import Placard.Font.Spleen
import Placard.Raster.Pixel
import Placard.Raster.Stamp
import Placard.Text.Blank

namespace Placard.Font

/-- Row `y` of the box that stands for a missing glyph has ink in column `x`. -/
def boxInk (x y : Nat) : Bool :=
  4 ≤ y && y < glyphAscent && 1 ≤ x && x < glyphWidth - 1 &&
    (y == 4 || y == glyphAscent - 1 || x == 1 || x == glyphWidth - 2)

/-- The ink of a character: which pixels of its cell are set. -/
def ink (c : Char) : Nat → Nat → Bool :=
  match spleenGlyph? c with
  | some bits => fun x y =>
    x < glyphWidth && y < glyphHeight &&
      bits.testBit (glyphWidth * glyphHeight - 1 - (y * glyphWidth + x))
  | none => if Text.isBlank c then fun _ _ => false else boxInk

/-- The pixel of a glyph that a pixel of its cell falls on, along one side of `size` pixels. -/
def glyphPixel (scale : Float) (offset size : Nat) : Nat :=
  let place :=
    (Binary.ofFloat (ofCoordinate (.ofNat offset) / scale)).toInt .towardZero 0 (UInt64.size - 1)
  min place.toNat (size - 1)

/-- The width and the height of a cell at a scale. -/
def cellSize (scale : Float) : Int64 × Int64 :=
  (toCoordinate .up (extent glyphWidth * scale), toCoordinate .up (extent glyphHeight * scale))

/-- The left edge of the cell of the `i`-th character. -/
def cellLeft (scale x : Float) (i : Nat) : Int64 :=
  nearest (x + extent i * extent glyphWidth * scale)

/-- The top edge of the cells of a line. -/
def cellTop (scale baseline : Float) : Int64 := nearest (baseline - extent glyphAscent * scale)

/-- The stamp of the `i`-th character of a line. -/
def cellStamp (scale x baseline : Float) (color : Rgba) (c : Char) (i : Nat) : Stamp where
  left := cellLeft scale x i
  top := cellTop scale baseline
  width := (cellSize scale).1.toNatClampNeg
  height := (cellSize scale).2.toNatClampNeg
  mark? :=
    let ink := ink c
    fun column row =>
      if ink (glyphPixel scale column glyphWidth) (glyphPixel scale row glyphHeight)
      then some fun old => blendOver old color 1 else none

/-- The stamps of the characters of a line from the `i`-th on. -/
def cellStamps (scale x baseline : Float) (color : Rgba) : List Char → (i : Nat) → List Stamp
  | [], _ => []
  | c :: cs, i =>
    cellStamp scale x baseline color c i :: cellStamps scale x baseline color cs (i + 1)

end Placard.Font
