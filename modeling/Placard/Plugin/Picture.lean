/-
# Pictures

The plugin that fits an image into a rectangle.  A picture that is not bound loads its image once
and keeps the sizes it has been drawn at; a bound one loads the image that the request names, and is
resized anew each time.  The image of a product is fitted into a box of its own, unless it has the
size of the rectangle already.
-/
import Placard.Asset.Source
import Placard.Plugin.Binding
import Placard.Plugin.Drawing
import Placard.Raster.Cache
import Placard.Raster.Canvas
import Placard.Yaml.Record

namespace Placard

/-- Where a picture stands between the left and the right edge of its rectangle. -/
inductive HorizontalAlign where
  | left
  | leftMargin
  | center
  | right
  | rightMargin
  deriving DecidableEq, Repr

def HorizontalAlign.name : HorizontalAlign → String
  | left => "left"
  | leftMargin => "left_margin"
  | center => "center"
  | right => "right"
  | rightMargin => "right_margin"

/-- Where a picture stands between the top and the bottom edge of its rectangle. -/
inductive VerticalAlign where
  | top
  | middle
  | bottom
  deriving DecidableEq, Repr

def VerticalAlign.name : VerticalAlign → String
  | top => "top"
  | middle => "middle"
  | bottom => "bottom"

/-- What a template declares of a picture. -/
structure PictureFields where
  binding : List (String × String) := []
  image : String := ""
  imgType : String := ""
  width : Nat := 0
  height : Nat := 0
  x : Int64 := 0
  y : Int64 := 0
  rect : FractionRect := ⟨0, 0, 0, 0⟩
  mode : FitMode := .clip
  halign : HorizontalAlign := .center
  valign : VerticalAlign := .middle

/-- A field of a picture that can be bound. -/
inductive PictureField where
  | image
  deriving DecidableEq

def PictureField.ofName? : String → Option PictureField
  | "image" => some image
  | _ => none

/-- A picture with what has been made of its declaration. -/
structure Picture extends PictureFields where
  bindings : Binding PictureField := .empty
  raster : Option Image := none
  cache : ResizeCache Image := .empty .clip

namespace Picture
open Yaml

/-! ## Reading -/

def rectFields : List (RecordField FractionRect) := [
  .of "left" Reading.real fun r v => { r with left := v },
  .of "top" Reading.real fun r v => { r with top := v },
  .of "right" Reading.real fun r v => { r with right := v },
  .of "bottom" Reading.real fun r v => { r with bottom := v }]

def modes : List (String × FitMode) := [.clip, .crop, .stretch].map fun m => (m.name, m)

def horizontals : List (String × HorizontalAlign) :=
  [.left, .leftMargin, .center, .right, .rightMargin].map fun a => (a.name, a)

def verticals : List (String × VerticalAlign) := [.top, .middle, .bottom].map fun a => (a.name, a)

def fields : List (RecordField PictureFields) := [
  .of "binding" Reading.texts fun p v => { p with binding := v },
  .of "image" Reading.text fun p v => { p with image := v },
  .of "imgtype" Reading.text fun p v => { p with imgType := v },
  .of "width" Reading.size fun p v => { p with width := v },
  .of "height" Reading.size fun p v => { p with height := v },
  .of "x" Reading.amount fun p v => { p with x := v },
  .of "y" Reading.amount fun p v => { p with y := v },
  .of "rect" (Reading.record rectFields ⟨0, 0, 0, 0⟩) fun p v => { p with rect := v },
  .of "mode" (Reading.choice modes) fun p v => { p with mode := v },
  .of "halign" (Reading.choice horizontals) fun p v => { p with halign := v },
  .of "valign" (Reading.choice verticals) fun p v => { p with valign := v }]

def reading : Reading Picture := fun v =>
  (Reading.record fields {} v).map fun f => { toPictureFields := f }

/-! ## Loading -/

def isProduct (p : Picture) : Bool :=
  p.imgType.toList.map Char.toLower == "product".toList

def isBound (p : Picture) : Bool := !p.binding.isEmpty

def load (p : Picture) (assets : AssetSource) : Except ConfigError Picture :=
  if p.image.isEmpty then .error (.missingField "image")
  else
    match assets.image p.image with
    | .error e => .error (.asset p.image e)
    | .ok raster => .ok { p with raster := some raster, cache := .empty p.mode }

/-- Checks a declared picture, and loads its image unless a request will name it. -/
def configure (p : Picture) (assets : AssetSource) : Except ConfigError Picture := do
  let bindings ← Binding.ofDeclared .image PictureField.ofName? p.binding
  let p := { p with bindings := bindings, rect := p.rect.normalized }
  if p.isProduct ∧ (p.width = 0 ∨ p.height = 0) then
    .error (.invalidField "width/height" "product images need both")
  else if bindings.isEmpty then p.load assets
  else .ok p

/-- Puts the value of one entry of the binding. -/
def bindEntry (values : RequestValues) (c : Change Picture) : PictureField × String → Change Picture
  | (.image, key) =>
    let uri := values.text key
    if uri ≠ c.state.image ∨ c.state.raster.isNone then ⟨{ c.state with image := uri }, true⟩ else c

/-- The picture with the values of a request; none if nothing changes. -/
def bind (p : Picture) (values : RequestValues) (assets : AssetSource) :
    Except BindError (Option Picture) :=
  match (p.bindings.entries.foldl (bindEntry values) ⟨p, false⟩).result? with
  | none => .ok none
  | some copy =>
    match copy.load assets with
    | .ok loaded => .ok (some loaded)
    | .error e => .error (.reconfigure e)

/-! ## Drawing -/

/-- A side of a rectangle as a size of 32 bits. -/
def side (n : Int64) : Nat := n.toUInt64.toUInt32.toNat

/-- The box that a raster is fitted into. -/
def box (p : Picture) (raster : Image) (rect : PixelRect) : Option (Nat × Nat) := do
  let size := (side (← rect.width), side (← rect.height))
  return if p.isProduct ∧ (raster.width, raster.height) ≠ size then (p.width, p.height) else size

/-- The column that a picture is fixed to, and which part of its width comes to lie there. -/
def horizontalAnchor (p : Picture) (r : PixelRect) : Option (Int64 × Float) := do
  match p.halign with
  | .left => return (r.left, 0)
  | .center => return ((← plus? r.left r.right) / 2, 0.5)
  | .right => return (r.right, 1)
  | .leftMargin => return (← plus? r.left p.x, ofCoordinate p.x / ofCoordinate (← r.width))
  | .rightMargin => return (← minus? r.right p.x, 1 - ofCoordinate p.x / ofCoordinate (← r.width))

/-- The row that a picture is fixed to, and which part of its height comes to lie there. -/
def verticalAnchor (p : Picture) (r : PixelRect) : Option (Int64 × Float) := do
  match p.valign with
  | .top => return (r.top, 0)
  | .middle => return (← plus? ((← plus? r.top r.bottom) / 2) p.y, 0.5)
  | .bottom => return (r.bottom, 1)

/-- A raster fitted into a box, and the picture with what it keeps. -/
def fitted (p : Picture) (raster : Image) (box : Nat × Nat) : Image × Picture :=
  if p.bindings.isEmpty then
    let (img, cache) := p.cache.get raster ⟨box.1, box.2, false⟩
    (img, { p with cache := cache })
  else (raster.resize p.mode box.1 box.2, p)

/-- Lays a fitted image over the canvas, where the picture goes within a rectangle. -/
def place (p : Picture) (canvas img : Image) (rect : PixelRect) : Option Image := do
  let (x, ax) ← p.horizontalAnchor rect
  let (y, ay) ← p.verticalAnchor rect
  canvas.drawAnchored img x y ax ay (some rect)

/-- The raster of a picture, and the box that it is fitted into. -/
def plan (p : Picture) (rect : PixelRect) : Option (Except DrawError (Image × Nat × Nat)) := do
  if ← rect.isDegenerate then return .error (.degenerateRect (← rect.width) (← rect.height))
  else
    match p.raster with
    | none => return .error .notConfigured
    | some raster => return .ok (raster, ← p.box raster rect)

/-- Draws a picture, and returns it with what it keeps, even if its place has no coordinates. -/
def draw (p : Picture) (canvas : Image) : Drawing × Picture :=
  let rect := p.rect.transform canvas.width canvas.height
  match p.plan rect with
  | none => (.overflow, p)
  | some (.error e) => (.failed e, p)
  | some (.ok (raster, box)) =>
    let (img, kept) := p.fitted raster box
    (.ofImage? (p.place canvas img rect), kept)

end Picture
end Placard
