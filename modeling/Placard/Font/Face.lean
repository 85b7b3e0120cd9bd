/-
# Faces

A face is a font at a size in pixels: the built-in bitmap font or a scalable one.  It measures a
line of text, draws it on its baseline, and breaks a text into lines that fit a width.
-/
import Placard.Font.Bitmap
import Placard.Font.Outline
import Placard.Number.Shortest
import Placard.Text.Quoted

namespace Placard

/-- Where the glyphs of a face come from. -/
inductive FontSource where
  | bitmap
  | outline (font : Font.OutlineFont)

/-- A font at a size in pixels. -/
structure FontFace where
  source : FontSource
  size : Float32

namespace FontFace
open Font

def builtinName : String := "builtin:spleen"

def listing (face : FontFace) : String :=
  let kind := match face.source with
    | .bitmap => "bitmap"
    | .outline _ => "outline"
  "FontFace \x7b kind: " ++ Text.quoted kind ++ ", px: " ++ Decimal.listing32 face.size ++ " \x7d"

/-- The enlargement of the built-in glyphs. -/
def bitmapScale (face : FontFace) : Float := widen face.size / extent glyphHeight

def lineHeight (face : FontFace) : Float :=
  match face.source with
  | .bitmap => extent glyphHeight * face.bitmapScale
  | .outline font => widen (font.height face.size)

/-- The distance from the top of a line to its baseline. -/
def ascent (face : FontFace) : Float :=
  match face.source with
  | .bitmap => extent glyphAscent * face.bitmapScale
  | .outline font => widen (font.ascent face.size)

/-- Where a glyph begins after a line that has come to `caret`. -/
def kerned (font : OutlineFont) (size : Float32) (before : Option Nat) (glyph : Nat)
    (caret : Float32) : Float32 :=
  match before with
  | some b => caret + font.kern size b glyph
  | none => caret

/-- Where a line ends that has come to `caret`, by the advances and the kernings of its glyphs. -/
def advanceOver (font : OutlineFont) (size : Float32) :
    List Char → (before : Option Nat) → (caret : Float32) → Float32
  | [], _, caret => caret
  | c :: cs, before, caret =>
    let glyph := font.glyph c
    advanceOver font size cs (some glyph)
      (kerned font size before glyph caret + font.advance size glyph)

def widthOf (face : FontFace) (cs : List Char) : Float :=
  match face.source with
  | .bitmap => extent cs.length * extent glyphWidth * face.bitmapScale
  | .outline font => widen (advanceOver font face.size cs none 0)

def width (face : FontFace) (text : String) : Float := face.widthOf text.toList

/-! ## Drawing -/

def coordinate (x : Float32) : Int64 :=
  Int64.ofInt ((Binary.ofFloat32 x).toInt .towardZero coordinateMin coordinateMax)

/-- The stamp of a glyph: every pixel of it has a mark, even one that is not covered. -/
def glyphStamp (cover : GlyphCover) (color : Rgba) : Stamp where
  left := coordinate cover.left
  top := coordinate cover.top
  width := cover.width
  height := cover.height
  mark? column row := some fun old => blendOver old color (cover.part column row)

/-- The stamps of the glyphs of a line that has come to `caret`. -/
def glyphStamps (font : OutlineFont) (size baseline : Float32) (color : Rgba) :
    List Char → (before : Option Nat) → (caret : Float32) → List Stamp
  | [], _, _ => []
  | c :: cs, before, caret =>
    let glyph := font.glyph c
    let place := kerned font size before glyph caret
    ((font.cover? size glyph place baseline).map (glyphStamp · color)).toList ++
      glyphStamps font size baseline color cs (some glyph) (place + font.advance size glyph)

/-- The stamps of a line of text with its left end at `x` and its baseline at `baseline`. -/
def stamps (face : FontFace) (text : String) (x baseline : Float) (color : Rgba) : List Stamp :=
  match face.source with
  | .bitmap => cellStamps face.bitmapScale x baseline color text.toList 0
  | .outline font =>
    glyphStamps font face.size (narrow baseline) color text.toList none (narrow x)

def draw (face : FontFace) (img : Image) (text : String) (x baseline : Float) (color : Rgba) :
    Option Image := (face.stamps text x baseline color).foldlM Stamp.draw img

/-! ## Breaking into lines -/

/-- The line is not wider than `width`. -/
def fits (face : FontFace) (width : Float) (line : List Char) : Bool :=
  !(width < face.widthOf line)

/-- Puts words on the line in hand as long as they fit, and on a new line otherwise. -/
def fillLines (fits : List Char → Bool) : (line : List Char) → List (List Char) → List (List Char)
  | line, [] => [line]
  | line, word :: rest =>
    let longer := line ++ ' ' :: word
    if fits longer then fillLines fits longer rest else line :: fillLines fits word rest

/-- The lines of the words of a paragraph; one without words is an empty line. -/
def paragraphLines (fits : List Char → Bool) : List (List Char) → List (List Char)
  | [] => [[]]
  | word :: rest => fillLines fits word rest

/-- The lines of a text within a width.  A line feed ends a line, and otherwise a line ends only
before a word that would not fit; a word that is too wide has a line of its own. -/
def wrap (face : FontFace) (text : String) (width : Float) : List String :=
  (Text.splitList (· == '\n') text.toList).flatMap fun paragraph =>
    (paragraphLines (face.fits width) (Text.wordList paragraph)).map String.ofList

end FontFace
end Placard
