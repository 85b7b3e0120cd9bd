/-
# Scalable fonts

What a face takes from a scalable font: the glyph of a character, the measures of glyphs at a size,
and how much of each pixel a glyph covers.  How that is got from the file of a font is left to an
engine; `Font.trueType` is one for fonts of straight outlines.
-/

namespace Placard.Font

/-- The pixels of a glyph, from its first column and row on, each covered to a part. -/
structure GlyphCover where
  left : Float32
  top : Float32
  width : Nat
  height : Nat
  part : (column row : Nat) → Float32

/-- A scalable font, with its measures at each size in pixels. -/
structure OutlineFont where
  glyph : Char → Nat
  height : (size : Float32) → Float32
  ascent : (size : Float32) → Float32
  advance : (size : Float32) → (glyph : Nat) → Float32
  /-- The kerning of two glyphs that stand side by side. -/
  kern : (size : Float32) → (first second : Nat) → Float32
  /-- A glyph with its origin at `(x, y)`, if there is anything of it to draw. -/
  cover? : (size : Float32) → (glyph : Nat) → (x y : Float32) → Option GlyphCover

/-- What opens the files of fonts. -/
abbrev Engine := ByteArray → Option OutlineFont

end Placard.Font
