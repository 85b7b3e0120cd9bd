/-
# Drawings

What comes of drawing a plugin.  A plugin that is not fit to be drawn says why; an overflow breaks
off the task that draws it, and then there is neither an image nor a reason.
-/
import Placard.Error
import Placard.Raster.Image

namespace Placard

/-- What comes of drawing a plugin. -/
inductive Drawing where
  | done (img : Image)
  | failed (reason : DrawError)
  | overflow

namespace Drawing

/-- The drawing of an image, which an overflow may have left out. -/
def ofImage? : Option Image → Drawing
  | some img => done img
  | none => overflow

@[simp] theorem ofImage?_eq_done {img? : Option Image} {img : Image} :
    ofImage? img? = done img ↔ img? = some img := by
  cases img? <;> simp [ofImage?]

@[simp] theorem ofImage?_eq_overflow {img? : Option Image} :
    ofImage? img? = overflow ↔ img? = none := by
  cases img? <;> simp [ofImage?]

@[simp] theorem ofImage?_ne_failed (img? : Option Image) (e : DrawError) :
    ofImage? img? ≠ failed e := by
  cases img? <;> simp [ofImage?]

end Drawing
end Placard
