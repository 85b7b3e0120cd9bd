/-
# Codes

The plugin that draws a symbol to be scanned: a text in a matrix of dark modules, with its middle on
a point of the canvas.  The matrix always belongs to the text and the level of the code at hand.
-/
import Placard.Plugin.Binding
import Placard.Plugin.Drawing
import Placard.Raster.Canvas
import Placard.Raster.Color
import Placard.Symbol.Matrix
import Placard.Yaml.Record

namespace Placard

/-- What a template declares of a code. -/
structure CodeFields where
  binding : List (String × String) := []
  text : String := ""
  color : String := ""
  recovery : Recovery := .medium
  anchor : FractionPoint := ⟨0, 0⟩
  /-- The side as a fraction of the width of the canvas. -/
  size : Float := 0

/-- A field of a code that can be bound. -/
inductive CodeField where
  | text
  deriving DecidableEq

def CodeField.ofName? : String → Option CodeField
  | "text" => some text
  | _ => none

/-- A code with what has been made of its declaration. -/
structure Code extends CodeFields where
  bindings : Binding CodeField := .empty
  matrix : Option Matrix := none
  foreground : Rgba := .white

namespace Code
open Yaml

/-! ## Reading -/

/-- A level, by its name or its number. -/
def level : Reading Recovery
  | .text s => (Recovery.ofName s).mapError fun detail => .parse (some detail)
  | .number (.whole n) =>
    if n ≤ coordinateMax then
      (Recovery.ofNumber n).mapError fun detail => .parse (some detail)
    else unreadable
  | _ => unreadable

def pointFields : List (RecordField FractionPoint) := [
  .of "x" Reading.real fun p v => { p with x := v },
  .of "y" Reading.real fun p v => { p with y := v }]

def fields : List (RecordField CodeFields) := [
  .of "binding" Reading.texts fun c v => { c with binding := v },
  .of "text" Reading.text fun c v => { c with text := v },
  .of "color" Reading.text fun c v => { c with color := v },
  .of "recovery" level fun c v => { c with recovery := v },
  .of "anchor" (Reading.record pointFields ⟨0, 0⟩) fun c v => { c with anchor := v },
  .of "size" Reading.real fun c v => { c with size := v }]

def reading : Reading Code := fun v =>
  (Reading.record fields {} v).map fun f => { toCodeFields := f }

/-! ## Making the matrix -/

/-- The text of a code that declares none. -/
def placeholder : String := "dummy"

def isBound (c : Code) : Bool := !c.binding.isEmpty

def build (c : Code) : Except ConfigError Code :=
  (Matrix.encode c.text c.recovery).map fun m => { c with matrix := some m }

/-- Checks a declared code and makes its matrix. -/
def configure (c : Code) : Except ConfigError Code := do
  if !(0 < c.size ∧ c.size ≤ 1) then
    throw (.invalidField "size" ("must be in (0, 1], got " ++ Decimal.ofFloat c.size))
  let bindings ← Binding.ofDeclared .qr CodeField.ofName? c.binding
  let foreground ← Rgba.parseOr c.color .white
  let text := if c.text.isEmpty then placeholder else c.text
  build { c with bindings := bindings, foreground := foreground, text := text }

/-- Puts the value of one entry of the binding; what is not new to the code itself is passed
over. -/
def bindEntry (base : Code) (values : RequestValues) (c : Change Code) :
    CodeField × String → Change Code
  | (.text, key) =>
    let text := values.text key
    if text = base.text then c else ⟨{ c.state with text := text }, true⟩

/-- The code with the values of a request; none if nothing changes. -/
def bind (c : Code) (values : RequestValues) : Except BindError (Option Code) :=
  match (c.bindings.entries.foldl (bindEntry c values) ⟨c, false⟩).result? with
  | none => .ok none
  | some copy =>
    match copy.build with
    | .ok built => .ok (some built)
    | .error e => .error (.reconfigure e)

/-! ## Drawing -/

def draw (c : Code) (canvas : Image) : Drawing :=
  match c.matrix with
  | none => .failed .notConfigured
  | some matrix =>
    let (x, y) := c.anchor.transform canvas.width canvas.height
    let side := toSize .halfAway (c.size * extent canvas.width)
    .ofImage? (canvas.drawAnchored (matrix.render side c.foreground) x y 0.5 0.5 none)

end Code
end Placard
