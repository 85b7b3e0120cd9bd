/-
# Resized images kept

A frame or a picture is drawn at the few sizes that a template allows, so each size is resampled
once and kept.  An entry is found by its box and by a flag that tells the ordinary artwork from the
promotional one; it is made by the first request for it, and never changed or dropped.  What stands
for an image in an entry is left open: an image itself, or an image in a place of its own.
-/
import Placard.Raster.Resample

namespace Placard

/-- What an entry is found by. -/
structure CacheKey where
  width : Nat
  height : Nat
  variant : Bool
  deriving DecidableEq, Repr

/-- The resized images made so far, in the order in which they were asked for. -/
structure ResizeCache (α : Type) where
  mode : FitMode
  entries : List (CacheKey × α)

namespace ResizeCache

variable {α : Type}

/-- A cache without entries, whose images are fitted by `mode`. -/
def empty (mode : FitMode) : ResizeCache α := ⟨mode, []⟩

def size (c : ResizeCache α) : Nat := c.entries.length

def find? (c : ResizeCache α) (key : CacheKey) : Option α := c.entries.lookup key

/-- The place of a key among the entries, which is that of a new entry if there is none. -/
def place (c : ResizeCache α) (key : CacheKey) : Nat := c.entries.findIdx fun e => e.1 == key

/-- Offers an image for a key: it is kept unless there is an entry already.  Returned are the entry
that the key has now and the cache with it. -/
def offer (c : ResizeCache α) (key : CacheKey) (img : α) : α × ResizeCache α :=
  match c.find? key with
  | some kept => (kept, c)
  | none => (img, { c with entries := c.entries ++ [(key, img)] })

/-- The image of a key, made from `source` if it is not there yet, and the cache with it. -/
def get (c : ResizeCache Image) (source : Image) (key : CacheKey) : Image × ResizeCache Image :=
  match c.find? key with
  | some img => (img, c)
  | none => c.offer key (source.resize c.mode key.width key.height)

end ResizeCache
end Placard
