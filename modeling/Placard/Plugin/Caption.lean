/-
# Captions

The plugin that draws text: a wrapped text, or a price.  A price is drawn whole, with the price that
a promotion replaces struck through, or in two parts by two captions: the thousands, and the three
digits after them.  Where everything goes is settled first, in a `CaptionLayout`, and then painted.
-/
import Placard.Asset.Face
import Placard.Plugin.Binding
import Placard.Plugin.Drawing
import Placard.Price
import Placard.Raster.Canvas
import Placard.Raster.Color
import Placard.Text.Ellipsis
import Placard.Yaml.Record

namespace Placard

/-- What a caption shows. -/
inductive CaptionMode where
  | wrapped
  | decimal
  | thousands
  | price
  deriving DecidableEq, Repr

def CaptionMode.name : CaptionMode → String
  | wrapped => "wrapped"
  | decimal => "decimal"
  | thousands => "int"
  | price => "price"

def Locale.name : Locale → String
  | vi => "vi"
  | en => "en"

/-- What a template declares of a caption. -/
structure CaptionFields where
  binding : List (String × String) := []
  text : String := ""
  price : Int64 := 0
  promotionPrice : Int64 := 0
  decimalPrice : Int64 := 0
  intPrice : Int64 := 0
  x : Float := 0
  y : Float := 0
  color : String := ""
  fontUri : String := ""
  fontSize : Float := 0
  strikeFull : Bool := false
  drawWrapped : Bool := false
  isDec : Bool := false
  isInt : Bool := false
  lineSpacing : Float := 1
  textWidth : Float := 0
  /-- The longest text that is not shortened; zero if none is. -/
  maxCharacter : Nat := 0
  locale : Locale := .vi
  /-- What follows an amount, if not what the locale says. -/
  currency : Option String := none

/-- A field of a caption that can be bound. -/
inductive CaptionField where
  | text
  | price
  | promotionPrice
  | decimalPrice
  | intPrice
  deriving DecidableEq

def CaptionField.ofName? : String → Option CaptionField
  | "text" => some text
  | "price" => some price
  | "promotion_price" => some promotionPrice
  | "decimal_price" => some decimalPrice
  | "int_price" => some intPrice
  | _ => none

/-- A caption with what has been made of its declaration. -/
structure Caption extends CaptionFields where
  bindings : Binding CaptionField := .empty
  face : Option FontFace := none
  ink : Rgba := .black

/-- A line of text on its baseline. -/
structure TextRun where
  text : String
  x : Float
  baseline : Float
  width : Float

/-- A horizontal rule through a line of text. -/
structure StrikeRule where
  x₀ : Float
  x₁ : Float
  y : Float
  thickness : Float

def StrikeRule.length (r : StrikeRule) : Float := r.x₁ - r.x₀

/-- Where everything goes that a caption shows. -/
structure CaptionLayout where
  runs : List TextRun := []
  rules : List StrikeRule := []

namespace Caption
open Yaml

/-! ## Reading -/

def locales : List (String × Locale) := [.vi, .en].map fun l => (l.name, l)

def fields : List (RecordField CaptionFields) := [
  .of "binding" Reading.texts fun c v => { c with binding := v },
  .of "text" Reading.text fun c v => { c with text := v },
  .of "price" Reading.amount fun c v => { c with price := v },
  .of "promotionprice" Reading.amount fun c v => { c with promotionPrice := v },
  .of "decimalprice" Reading.amount fun c v => { c with decimalPrice := v },
  .of "intprice" Reading.amount fun c v => { c with intPrice := v },
  .of "x" Reading.real fun c v => { c with x := v },
  .of "y" Reading.real fun c v => { c with y := v },
  .of "color" Reading.text fun c v => { c with color := v },
  .of "fonturi" Reading.text fun c v => { c with fontUri := v },
  .of "fontsize" Reading.real fun c v => { c with fontSize := v },
  .of "strikefull" Reading.flag fun c v => { c with strikeFull := v },
  .of "drawwrapped" Reading.flag fun c v => { c with drawWrapped := v },
  .of "isdec" Reading.flag fun c v => { c with isDec := v },
  .of "isint" Reading.flag fun c v => { c with isInt := v },
  .of "linespacing" Reading.real fun c v => { c with lineSpacing := v },
  .of "textwidth" Reading.real fun c v => { c with textWidth := v },
  .of "maxcharacter" Reading.count fun c v => { c with maxCharacter := v },
  .of "locale" (Reading.choice locales) fun c v => { c with locale := v },
  .of "currency" (Reading.optional Reading.text) fun c v => { c with currency := v }]

def reading : Reading Caption := fun v =>
  (Reading.record fields {} v).map fun f => { toCaptionFields := f }

/-! ## Configuring and binding -/

def isBound (c : Caption) : Bool := !c.binding.isEmpty

def mode (c : Caption) : CaptionMode :=
  if c.drawWrapped then .wrapped
  else if c.isDec then .decimal
  else if c.isInt then .thousands
  else .price

/-- Checks a declared caption and loads its face. -/
def configure (c : Caption) (assets : AssetSource) : Except ConfigError Caption := do
  if c.fontUri.isEmpty then throw (.missingField "fontUri")
  if c.fontSize ≤ 0 then throw (.missingField "fontSize")
  let spacing := if c.lineSpacing ≤ 0 then 1 else c.lineSpacing
  let bindings ← Binding.ofDeclared .text CaptionField.ofName? c.binding
  let ink ← Rgba.parseOr c.color .black
  let face ← FontFace.load assets c.fontUri (narrow c.fontSize)
  return { c with lineSpacing := spacing, bindings := bindings, ink := ink, face := some face }

/-- Puts the value of one entry of the binding. -/
def bindEntry (values : RequestValues) (c : Change Caption) :
    CaptionField × String → Except BindError (Change Caption)
  | (.text, key) => .ok (c.put (·.text) (fun p v => { p with text := v }) (values.text key))
  | (.price, key) => do
    return c.put (·.price) (fun p v => { p with price := v }) (← values.amount key)
  | (.promotionPrice, key) => do
    return c.put (·.promotionPrice) (fun p v => { p with promotionPrice := v })
      (← values.amount key)
  | (.decimalPrice, key) => do
    return c.put (·.decimalPrice) (fun p v => { p with decimalPrice := v })
      ((← values.amount key) % 1000)
  | (.intPrice, key) => do
    return c.put (·.intPrice) (fun p v => { p with intPrice := v }) ((← values.amount key) / 1000)

/-- The caption with the values of a request; none if nothing changes. -/
def bind (c : Caption) (values : RequestValues) : Except BindError (Option Caption) :=
  (c.bindings.entries.foldlM (bindEntry values) ⟨c, false⟩).map Change.result?

/-! ## Texts of prices -/

/-- What follows an amount. -/
def suffix (c : Caption) : String := c.currency.getD c.locale.currency

/-- An amount with what follows it. -/
def priceText (c : Caption) (amount : Int64) : String := Price.grouped c.locale amount ++ c.suffix

/-- The thousands of a price that is drawn in two parts. -/
def thousandsText (c : Caption) : String :=
  Price.grouped c.locale c.intPrice ++ String.singleton c.locale.separator

/-- A number of at least three characters, filled up with zeros after its sign. -/
def padded (n : Int64) : String :=
  let ds := Price.digits n.toInt.natAbs
  let sign := if n < 0 then ['-'] else []
  String.ofList (sign ++ List.replicate (3 - sign.length - ds.length) '0' ++ ds)

/-- The last digits of a price that is drawn in two parts. -/
def decimalText (c : Caption) : String := padded c.decimalPrice ++ c.suffix

/-! ## Layout -/

/-- Where the last digits of a price begin, in widths of the thousands. -/
def decimalOffset : Float := 1.35

/-- How far a rule is above the baseline, in heights of a line. -/
def strikeRise : Float := 0.25

def textRun (face : FontFace) (text : String) (x baseline : Float) : TextRun :=
  ⟨text, x, baseline, face.width text⟩

/-- The lines of the caption's text, on a canvas of the given size. -/
def wrappedRuns (c : Caption) (face : FontFace) (width height : Nat) : List TextRun :=
  let lines := face.wrap (Text.ellipsis c.text c.maxCharacter) c.textWidth
  let line := face.lineHeight
  let block := extent lines.length * line * c.lineSpacing - (c.lineSpacing - 1) * line
  let ax := if 0 < width then c.x / extent width else 0
  let ay := if 0 < height then c.y / extent height else 0
  let left := c.x - ax * c.textWidth
  let top := c.y - ay * block
  lines.mapIdx fun i text =>
    textRun face text left (top + line + extent i * line * c.lineSpacing)

/-- The rule through a run that begins at `x`. -/
def strike (c : Caption) (face : FontFace) (x width : Float) : StrikeRule :=
  let line := face.lineHeight
  { x₀ := x
    x₁ := x + width
    y := c.y - line * strikeRise
    thickness := greater (rounded .halfAway (line / 24)) 1 }

/-- A whole price: the price of a promotion and, if asked for, the price that it replaces; or else
the one price there is. -/
def priceLayout (c : Caption) (face : FontFace) : CaptionLayout :=
  if 0 < c.promotionPrice ∧ c.promotionPrice < c.price then
    let promo := textRun face (c.priceText c.promotionPrice) c.x c.y
    if c.strikeFull then
      let struck := textRun face (c.priceText c.price) (promo.x + promo.width) c.y
      { runs := [promo, struck], rules := [c.strike face struck.x struck.width] }
    else { runs := [promo] }
  else
    let amount := if 0 < c.price then c.price else c.promotionPrice
    if 0 < amount then { runs := [textRun face (c.priceText amount) c.x c.y] } else {}

/-- Where everything goes on a canvas of the given size. -/
def layout (c : Caption) (width height : Nat) : Except DrawError CaptionLayout :=
  match c.face with
  | none => .error .notConfigured
  | some face =>
    .ok <| match c.mode with
      | .wrapped => { runs := c.wrappedRuns face width height }
      | .thousands => { runs := [textRun face c.thousandsText c.x c.y] }
      | .decimal =>
        let before := face.width c.thousandsText
        { runs := [textRun face c.decimalText (c.x + before * decimalOffset) c.y] }
      | .price => c.priceLayout face

/-! ## Drawing -/

/-- Paints a layout: the rules, and the runs over them. -/
def paint (c : Caption) (face : FontFace) (layout : CaptionLayout) (canvas : Image) :
    Option Image := do
  let ruled ← layout.rules.foldlM (fun img r => img.rule r.x₀ r.x₁ r.y r.thickness c.ink) canvas
  layout.runs.foldlM (fun img run => face.draw img run.text run.x run.baseline c.ink) ruled

def draw (c : Caption) (canvas : Image) : Drawing :=
  match c.layout canvas.width canvas.height, c.face with
  | .ok layout, some face => .ofImage? (c.paint face layout canvas)
  | .error e, _ => .failed e
  | _, none => .failed .notConfigured

end Caption
end Placard
