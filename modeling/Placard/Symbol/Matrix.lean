/-
# Module matrices

The finished symbol of a payload: a square of dark and light modules, and its picture at a given
size, with whole pixels for every module and what is left over around them.
-/
import Placard.Error
import Placard.Raster.Image
import Placard.Symbol.Grid

namespace Placard

/-- A square of dark and light modules, row after row. -/
structure Matrix where
  width : Nat
  dark : Array Bool
  size_eq : dark.size = width * width
  deriving DecidableEq

namespace Matrix
open Placard.Symbol

def isDark (m : Matrix) (x y : Nat) : Bool := m.dark.getD (y * m.width + x) false

def ofFn (width : Nat) (f : Nat → Nat → Bool) : Matrix :=
  ⟨width, Array.ofFn fun i : Fin (width * width) => f (i % width) (i / width), Array.size_ofFn⟩

def rows (m : Matrix) : List (List Bool) :=
  (List.range m.width).map fun y => (List.range m.width).map fun x => m.isDark x y

def columns (m : Matrix) : List (List Bool) :=
  (List.range m.width).map fun x => (List.range m.width).map fun y => m.isDark x y

/-- The matrix of the modules of a symbol under a mask. -/
def masked (version : Nat) (modules : Array Module) (level : Recovery) (mask : Nat) : Matrix :=
  let n := side version
  let format := formatBits level mask
  ofFn n fun x y =>
    match modules.getD (y * n + x) default with
    | .fixed dark => dark
    | .format index => format.testBit index
    | .data bit => bit != inverts mask x y

/-- The first of the matrices with the lowest penalty. -/
def lightest : Matrix → List Matrix → Matrix
  | best, [] => best
  | best, m :: ms =>
    go best (penalty best.rows best.columns) (m :: ms)
where
  /-- The first matrix of lowest penalty, among the best so far and those to come. -/
  go : Matrix → Nat → List Matrix → Matrix
    | best, _, [] => best
    | best, least, m :: ms =>
      let p := penalty m.rows m.columns
      if p < least then go m p ms else go best least ms

/-- The matrix of a payload, or none if it is too long for the level. -/
def ofPayload? (payload : List UInt8) (level : Recovery) : Option Matrix :=
  (choose level payload).map fun (version, segments) =>
    let octets := allCodewords level version (dataOctets level version payload segments)
    let modules := draw version (octets.flatMap fun o => bitsOf 8 o.toNat)
    lightest (masked version modules level 0)
      ((List.range' 1 7).map (masked version modules level))

def encode (text : String) (level : Recovery) : Except ConfigError Matrix :=
  match ofPayload? text.toUTF8.toList level with
  | some m => .ok m
  | none => .error (.qr "data too long")

/-- The picture of a matrix: a square of the given side, grown to one pixel for each module if it is
smaller.  Every module is a block of whole pixels; what is left over is shared out on both sides,
the odd pixel after the last module. -/
def render (m : Matrix) (size : Nat) (color : Rgba) : Image :=
  let modules := max m.width 1
  let size := max size modules
  let block := size / modules
  let offset := (size - block * modules) / 2
  Image.ofFn size size fun x y =>
    if x < offset ∨ y < offset then .transparent
    else
      let (mx, my) := ((x - offset) / block, (y - offset) / block)
      if mx < modules ∧ my < modules ∧ m.isDark mx my then color else .transparent

end Matrix
end Placard
