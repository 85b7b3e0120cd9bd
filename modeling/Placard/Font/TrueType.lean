/-
# Fonts of straight outlines

An engine for the files of fonts whose glyphs are closed polygons: the glyph of a character, the
advance of a glyph, the kerning of a pair, and the contours of a glyph are read once from the tables
of the file.  Curves are drawn as the polygons of their points, a glyph that is made of other glyphs
has no ink, and other formats than that of these tables are refused, as is a file that lacks a table
every font has.
-/
import Placard.Font.Coverage
import Placard.Font.Outline

namespace Placard.Font

/-- A point of a contour, in the units of the font. -/
structure Corner where
  x : Int
  y : Int

/-- The parts of a font file that drawing takes. -/
structure TrueType where
  ascender : Int
  descender : Int
  /-- Spans of characters, with the glyph of each character in them. -/
  characters : List (Nat × Nat × (Nat → Nat))
  /-- The advances of the first glyphs; the last one holds for all that follow. -/
  advances : Array Nat
  kerning : List ((Nat × Nat) × Int)
  /-- The contours of each glyph. -/
  outlines : Array (List (List Corner))

namespace TrueType

/-- The octet at a place; beyond the end all octets are zero. -/
def octet (data : ByteArray) (i : Nat) : Nat := (data[i]?.getD 0).toNat

def word (data : ByteArray) (i : Nat) : Nat := octet data i * 256 + octet data (i + 1)

def signedWord (data : ByteArray) (i : Nat) : Int :=
  let n := word data i
  if n < 0x8000 then n else (n : Int) - 0x10000

def long (data : ByteArray) (i : Nat) : Nat := word data i * 65536 + word data (i + 2)

/-- The place and the length of a table within the file. -/
def table? (data : ByteArray) (tag : String) : Option (Nat × Nat) :=
  let name := tag.toList.map Char.toNat
  (List.range (word data 4)).findSome? fun k =>
    let record := 12 + 16 * k
    let place := long data (record + 8)
    let size := long data (record + 12)
    if name == [octet data record, octet data (record + 1), octet data (record + 2),
        octet data (record + 3)] && place + size ≤ data.size then
      some (place, size)
    else none

/-- The spans of a character map by segments that begins at `start`. -/
def segments (data : ByteArray) (start : Nat) : List (Nat × Nat × (Nat → Nat)) :=
  let count := word data (start + 6) / 2
  (List.range count).map fun k =>
    let last := word data (start + 14 + 2 * k)
    let first := word data (start + 16 + 2 * count + 2 * k)
    let delta := word data (start + 16 + 4 * count + 2 * k)
    let place := start + 16 + 6 * count + 2 * k
    let offset := word data place
    (first, last, fun c =>
      if offset = 0 then (c + delta) % 0x10000
      else
        let glyph := word data (place + offset + 2 * (c - first))
        if glyph = 0 then 0 else (glyph + delta) % 0x10000)

/-- The spans of all maps of the character standard by segments. -/
def characterSpans (data : ByteArray) (cmap : Nat) : List (Nat × Nat × (Nat → Nat)) :=
  (List.range (word data (cmap + 2))).flatMap fun k =>
    let record := cmap + 4 + 8 * k
    let platform := word data record
    let encoding := word data (record + 2)
    let start := cmap + long data (record + 4)
    if (platform = 0 ∨ (platform = 3 ∧ encoding = 1)) ∧ word data start = 4 then segments data start
    else []

/-- The pairs of the horizontal kerning tables. -/
def kerningPairs (data : ByteArray) (kern : Nat) : List ((Nat × Nat) × Int) :=
  let rec go : Nat → Nat → List ((Nat × Nat) × Int)
    | 0, _ => []
    | tables + 1, start =>
      let pairs :=
        if octet data (start + 4) = 0 ∧ octet data (start + 5) % 2 = 1 then
          (List.range (word data (start + 6))).map fun k =>
            let pair := start + 14 + 6 * k
            ((word data pair, word data (pair + 2)), signedWord data (pair + 4))
        else []
      pairs ++ go tables (start + word data (start + 2))
  go (word data (kern + 2)) (kern + 4)

/-- The flags of `count` points from place `i` on, and the place after them. -/
def flags (data : ByteArray) : (count i : Nat) → (repeated : Nat × Nat) → List Nat × Nat
  | 0, i, _ => ([], i)
  | count + 1, i, (0, _) =>
    let flag := octet data i
    let again := flag / 8 % 2 = 1
    let (next, times) := if again then (i + 2, octet data (i + 1)) else (i + 1, 0)
    let (rest, j) := flags data count next (times, flag)
    (flag :: rest, j)
  | count + 1, i, (times + 1, flag) =>
    let (rest, j) := flags data count i (times, flag)
    (flag :: rest, j)

/-- The coordinates that the flags tell, each as a step from the one before: `short` is the bit of a
flag for a step of one octet, `same` the bit for its sign or for no step. -/
def coordinates (data : ByteArray) (short same : Nat) : List Nat → (i : Nat) → Int → List Int × Nat
  | [], i, _ => ([], i)
  | flag :: rest, i, value =>
    let isShort := flag / short % 2 = 1
    let isSame := flag / same % 2 = 1
    let step : Int :=
      if isShort then (if isSame then octet data i else -(octet data i : Int))
      else if isSame then 0 else signedWord data i
    let next := if isShort then i + 1 else if isSame then i else i + 2
    let (more, j) := coordinates data short same rest next (value + step)
    ((value + step) :: more, j)

/-- Cuts the points of a glyph into its contours, given the index of the last point of each. -/
def contours : List Nat → Nat → List Corner → List (List Corner)
  | [], _, _ => []
  | last :: rest, start, points =>
    points.take (last + 1 - start) :: contours rest (last + 1) (points.drop (last + 1 - start))

/-- The contours of the glyph that begins at `start`; a glyph made of other glyphs has none. -/
def glyphContours (data : ByteArray) (start : Nat) : List (List Corner) :=
  let count := signedWord data start
  if count ≤ 0 then []
  else
    let ends := (List.range count.toNat).map fun k => word data (start + 10 + 2 * k)
    let after := start + 10 + 2 * count.toNat
    let points := ends.getLast?.getD 0 + 1
    let (fs, i) := flags data points (after + 2 + word data after) (0, 0)
    let (xs, j) := coordinates data 2 16 fs i 0
    let (ys, _) := coordinates data 4 32 fs j 0
    contours ends 0 (xs.zipWith Corner.mk ys)

def parse? (data : ByteArray) : Option TrueType := do
  if long data 0 ≠ 0x00010000 ∧ long data 0 ≠ 0x74727565 then failure
  let (head, _) ← table? data "head"
  let (hhea, _) ← table? data "hhea"
  let (maxp, _) ← table? data "maxp"
  let glyphs := word data (maxp + 4)
  let advances := match table? data "hmtx" with
    | some (hmtx, _) => (List.range (word data (hhea + 34))).map fun k => word data (hmtx + 4 * k)
    | none => []
  let outlines := match table? data "loca", table? data "glyf" with
    | some (loca, _), some (glyf, _) =>
      let place (k : Nat) : Nat :=
        if word data (head + 50) = 0 then 2 * word data (loca + 2 * k) else long data (loca + 4 * k)
      (List.range glyphs).map fun k =>
        if place k < place (k + 1) then glyphContours data (glyf + place k) else []
    | _, _ => []
  return {
    ascender := signedWord data (hhea + 4)
    descender := signedWord data (hhea + 6)
    characters := match table? data "cmap" with
      | some (cmap, _) => characterSpans data cmap
      | none => []
    advances := advances.toArray
    kerning := match table? data "kern" with
      | some (kern, _) => kerningPairs data kern
      | none => []
    outlines := outlines.toArray }

def glyph (font : TrueType) (c : Char) : Nat :=
  match font.characters.find? fun s => s.1 ≤ c.toNat && c.toNat ≤ s.2.1 with
  | some (_, _, glyph) => glyph c.toNat
  | none => 0

def advance (font : TrueType) (glyph : Nat) : Nat :=
  font.advances.getD (min glyph (font.advances.size - 1)) 0

def kern (font : TrueType) (first second : Nat) : Int :=
  (font.kerning.lookup (first, second)).getD 0

/-! ## Drawing -/

/-- The enlargement of the outlines at a size. -/
def scale (font : TrueType) (size : Float32) : Float32 :=
  size / (singleInt font.ascender - singleInt font.descender)

/-- A number without its fraction. -/
def wholePart (x : Float32) : Float32 := if x < 0 then Float32.ceil x else Float32.floor x

/-- The edges of a polygon: from each corner to the next, and from the last one to the first. -/
def edges {α : Type} (corners : List α) : List (α × α) :=
  corners.zip (corners.drop 1 ++ corners.take 1)

/-- The pixels of some contours, enlarged and with their origin at `(x, y)`. -/
def cover? (contours : List (List Corner)) (scale x y : Float32) : Option GlyphCover :=
  match contours.flatten with
  | [] => none
  | corner :: rest =>
    let low (f : Corner → Int) : Float32 :=
      singleInt (rest.foldl (fun m c => min m (f c)) (f corner))
    let high (f : Corner → Int) : Float32 :=
      singleInt (rest.foldl (fun m c => max m (f c)) (f corner))
    let (xw, yw) := (wholePart x, wholePart y)
    let (xf, yf) := (x - xw, y - yw)
    let left := Float32.floor (low (·.x) * scale + xf) + xw
    let top := Float32.floor (high (·.y) * -scale + yf) + yw
    let right := Float32.ceil (high (·.x) * scale + xf) + xw
    let bottom := Float32.ceil (low (·.y) * -scale + yf) + yw
    let w := wholeSize .towardZero (right - left)
    let h := wholeSize .towardZero (bottom - top)
    let spot (c : Corner) : Spot :=
      ⟨singleInt c.x * scale + (x - left), singleInt c.y * -scale + (y - top)⟩
    let coverage := ((contours.flatMap edges).foldl
      (fun cs e => cs.edge (spot e.1) (spot e.2)) (Changes.none w h)).coverage
    some ⟨left, top, w, h, fun column row => coverage.getD (row * w + column) 0⟩

/-- The font as faces take it. -/
def toOutline (font : TrueType) : OutlineFont where
  glyph := font.glyph
  height size := size
  ascent size := font.scale size * singleInt font.ascender
  advance size glyph := font.scale size * Resample.single (font.advance glyph)
  kern size first second := font.scale size * singleInt (font.kern first second)
  cover? size glyph x y := cover? (font.outlines.getD glyph []) (font.scale size) x y

end TrueType

/-- The engine for fonts of straight outlines. -/
def trueType : Engine := fun data => (TrueType.parse? data).map TrueType.toOutline

end Placard.Font
