/-
# Stamps

What a glyph leaves on an image: a rectangle of pixels, each with its mark or without one.  The pixels
are told by their columns and rows within the stamp, and only one that has a mark is looked for on the
image.  So a stamp may reach beyond the coordinates, but its marks may not.
-/
import Placard.Raster.Image

namespace Placard

/-- A rectangle of pixels with their marks. -/
structure Stamp where
  left : Int64
  top : Int64
  width : Nat
  height : Nat
  /-- What becomes of the pixel in a column of a row, if there is a mark. -/
  mark? : (column row : Nat) → Option (Rgba → Rgba)

namespace Stamp

/-- The edges of the stamp are coordinates. -/
def Inside (s : Stamp) : Prop :=
  s.left.toInt + s.width ≤ coordinateMax ∧ s.top.toInt + s.height ≤ coordinateMax

instance (s : Stamp) : Decidable s.Inside := inferInstanceAs (Decidable (_ ∧ _))

/-- Every mark has coordinates. -/
def MarksInside (s : Stamp) : Prop :=
  ∀ row < s.height, ∀ column < s.width, (s.mark? column row).isSome →
    s.left.toInt + column ≤ coordinateMax ∧ s.top.toInt + row ≤ coordinateMax

theorem Inside.marksInside {s : Stamp} (h : s.Inside) : s.MarksInside := by
  intro row hrow column hcolumn _
  obtain ⟨hright, hbottom⟩ := h
  omega

/-- The marks are gone through only if the edges do not settle where they are. -/
instance (s : Stamp) : Decidable s.MarksInside :=
  if h : s.Inside then .isTrue h.marksInside
  else inferInstanceAs (Decidable (∀ row < s.height, ∀ column < s.width, _))

/-- The rectangle of a stamp, as far as it lies among the coordinates. -/
def rect (s : Stamp) : PixelRect where
  left := s.left
  top := s.top
  right := Int64.ofInt (min (s.left.toInt + s.width) coordinateMax)
  bottom := Int64.ofInt (min (s.top.toInt + s.height) coordinateMax)

/-- Leaves the marks on an image. -/
def draw (img : Image) (s : Stamp) : Option Image :=
  if s.MarksInside then
    some (img.updateWithin s.rect fun px py =>
      (s.mark? (px - s.left).toNatClampNeg (py - s.top).toNatClampNeg).getD id)
  else none

end Stamp
end Placard
