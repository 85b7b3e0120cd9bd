/-
# Coverage

How much of each pixel a polygon covers.  Each edge leaves in every row it crosses the area to its
right as a change from one pixel to the next; the running sum of the changes along the rows is the
coverage, up to its sign.  The arithmetic is that of 32-bit floating numbers.
-/
import Placard.Raster.Resample

namespace Placard.Font

/-- A point in pixels. -/
structure Spot where
  x : Float32
  y : Float32

/-- The changes of coverage from one pixel to the next, row after row. -/
structure Changes where
  width : Nat
  height : Nat
  deltas : Array Float32

/-- No change anywhere; there is room for an edge that runs over the end of a row. -/
def Changes.none (width height : Nat) : Changes :=
  ⟨width, height, Array.replicate (width * height + 4) 0⟩

/-- The whole part of a number, as a size. -/
def wholeSize (r : Binary.Rounding) (x : Float32) : Nat :=
  ((Binary.ofFloat32 x).toInt r 0 UInt32.size).toNat

def singleInt (n : Int) : Float32 :=
  if n < 0 then -Resample.single n.natAbs else Resample.single n.natAbs

def greaterSingle (a b : Float32) : Float32 := if a < b then b else a

def lesserSingle (a b : Float32) : Float32 := if b < a then b else a

/-- Adds to the change at a place, if there is such a place. -/
def addAt (deltas : Array Float32) (i : Int) (v : Float32) : Array Float32 :=
  if 0 ≤ i then deltas.modify i.toNat (· + v) else deltas

/-- Adds `v` at `count` places from `i` on. -/
def addRun (v : Float32) : (count : Nat) → Int → Array Float32 → Array Float32
  | 0, _, deltas => deltas
  | count + 1, i, deltas => addRun v count (i + 1) (addAt deltas i v)

/-- The changes in one row, which begins at place `start`, of an edge that runs from `x` to `next`
and crosses the part `d` of the row, counted negative if it runs upwards. -/
def crossRow (deltas : Array Float32) (start : Int) (x next d : Float32) : Array Float32 :=
  let (x₀, x₁) := if x < next then (x, next) else (next, x)
  let left := (Binary.ofFloat32 x₀).toInt .down Int32.minValue.toInt Int32.maxValue.toInt
  let right := (Binary.ofFloat32 x₁).toInt .up Int32.minValue.toInt Int32.maxValue.toInt
  if start + left < 0 then deltas
  else if right ≤ left + 1 then
    let middle := 0.5 * (x + next) - singleInt left
    addAt (addAt deltas (start + left) (d - d * middle)) (start + left + 1) (d * middle)
  else
    let slope := 1 / (x₁ - x₀)
    let fraction := x₀ - singleInt left
    let first := 0.5 * slope * (1 - fraction) * (1 - fraction)
    let beyond := x₁ - singleInt right + 1
    let last := 0.5 * slope * beyond * beyond
    let deltas := addAt deltas (start + left) (d * first)
    let deltas :=
      if right = left + 2 then addAt deltas (start + left + 1) (d * (1 - first - last))
      else
        let second := slope * (1.5 - fraction)
        let deltas := addAt deltas (start + left + 1) (d * (second - first))
        let deltas := addRun (d * slope) (right - left - 3).toNat (start + left + 2) deltas
        let sum := second + singleInt (right - left - 3) * slope
        addAt deltas (start + right - 1) (d * (1 - sum - last))
    addAt deltas (start + right) (d * last)

/-- The changes of an edge in `rows` rows from `y` on, where it is at `x`. -/
def crossRows (width : Nat) (top bottom slope direction : Float32) :
    (rows y : Nat) → Float32 → Array Float32 → Array Float32
  | 0, _, _, deltas => deltas
  | rows + 1, y, x, deltas =>
    let part :=
      lesserSingle (Resample.single (y + 1)) bottom - greaterSingle (Resample.single y) top
    let next := x + slope * part
    crossRows width top bottom slope direction rows (y + 1) next
      (crossRow deltas (y * width : Nat) x next (part * direction))

/-- The changes of an edge from `p` to `q`; a level edge makes none. -/
def Changes.edge (c : Changes) (p q : Spot) : Changes :=
  if Float32.abs (p.y - q.y) ≤ Float32.ofBits 0x34000000 then c
  else
    let (direction, upper, lower) : Float32 × Spot × Spot :=
      if p.y < q.y then (1, p, q) else (-1, q, p)
    let slope := (lower.x - upper.x) / (lower.y - upper.y)
    let first := wholeSize .towardZero upper.y
    let x := if upper.y < 0 then upper.x - upper.y * slope else upper.x
    let rows := min c.height (wholeSize .up lower.y) - first
    { c with deltas := crossRows c.width upper.y lower.y slope direction rows first x c.deltas }

def runningSums : List Float32 → Float32 → List Float32
  | [], _ => []
  | d :: ds, sum => Float32.abs (sum + d) :: runningSums ds (sum + d)

/-- The coverage of each pixel, row after row. -/
def Changes.coverage (c : Changes) : Array Float32 :=
  (runningSums (c.deltas.toList.take (c.width * c.height)) 0).toArray

end Placard.Font
