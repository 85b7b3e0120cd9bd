/-
# Fitting an image into a box

An image is put into a box by one of three modes: *clip* fits it inside, *crop* lets it cover the
box, and both keep its proportions; *stretch* gives it the size of the box.  A side of zero means
that this side follows from the other one.  The sizes are computed by quotients of numbers; which
numbers is left open (`Proportion`), so that what is said of exact quotients and what runs on
floating numbers are one definition.
-/
import Placard.Geometry

namespace Placard

/-- How an image is put into a box. -/
inductive FitMode where
  | clip
  | crop
  | stretch
  deriving DecidableEq, Repr

/-- Numbers that proportions are computed in. -/
class Proportion (α : Type) where
  /-- A size as a number. -/
  ofSize : Nat → α
  times : α → α → α
  quotient : α → α → α
  /-- The first number is less than the second. -/
  below : α → α → Bool
  /-- The nearest size below `2 ^ 32`, halves going up. -/
  nearestSize : α → Nat

instance : Proportion Float where
  ofSize := extent
  times := (· * ·)
  quotient := (· / ·)
  below a b := a < b
  nearestSize := toSize .halfAway

namespace FitMode

def name : FitMode → String
  | clip => "clip"
  | crop => "crop"
  | stretch => "stretch"

open Proportion in
/-- The size of an image of `sourceWidth` by `sourceHeight` pixels put into a box. -/
def target (α : Type) [Proportion α] (mode : FitMode)
    (sourceWidth sourceHeight width height : Nat) : Nat × Nat :=
  let ratio : α := quotient (ofSize (max sourceWidth 1)) (ofSize (max sourceHeight 1))
  let byHeight : Nat × Nat := (nearestSize (times (ofSize height) ratio), height)
  let byWidth : Nat × Nat := (width, nearestSize (quotient (ofSize width) ratio))
  let size :=
    if width = 0 ∧ height = 0 then (sourceWidth, sourceHeight)
    else if width = 0 then byHeight
    else if height = 0 then byWidth
    else
      let box : α := quotient (ofSize width) (ofSize height)
      match mode with
      | stretch => (width, height)
      | clip => if below ratio box then byHeight else byWidth
      | crop => if below box ratio then byHeight else byWidth
  (max size.1 1, max size.2 1)

end FitMode
end Placard
