/-
# Price frames

A price frame decorates a photo: its artwork is laid over the photo, and one or two prices are
written on it.  The result has the size of the photo.  The artwork is resized once for each size of
photo; there may be another artwork for promotions.
-/
import Placard.Template

namespace Placard
open Yaml

/-! ## Price blocks -/

/-- What a document says of the place of a price. -/
structure PriceBlockFields where
  top : Float := 0
  right : Float := 0
  verticalCenter : Bool := false
  /-- The size of the font as a fraction of the height of the photo. -/
  height : Float := 0
  fontUri : String := ""
  color : String := ""
  /-- The thickness of the rule as a fraction of the height of the text. -/
  strikeThrough : Float := 0
  strikeFull : Bool := false
  /-- The middle of the rule as a fraction of the height of the text, from its top. -/
  strikePos : Float := 0

/-- The place and the look of a price. -/
structure PriceBlock where
  top : Float
  right : Float
  verticalCenter : Bool
  height : Float
  strikeThrough : Float
  strikeFull : Bool
  strikePos : Float
  face : FontFace
  ink : Rgba

/-- Where a price goes on a photo. -/
structure PriceLayout where
  text : String
  left : Float
  baseline : Float
  face : FontFace
  strike : Option PixelRect

namespace PriceBlock

def fields : List (RecordField PriceBlockFields) := [
  .of "top" Reading.real fun b v => { b with top := v },
  .of "right" Reading.real fun b v => { b with right := v },
  .of "verticalcenter" Reading.flag fun b v => { b with verticalCenter := v },
  .of "height" Reading.real fun b v => { b with height := v },
  .of "fonturi" Reading.text fun b v => { b with fontUri := v },
  .of "color" Reading.text fun b v => { b with color := v },
  .of "strikethrough" Reading.real fun b v => { b with strikeThrough := v },
  .of "strikefull" Reading.flag fun b v => { b with strikeFull := v },
  .of "strikepos" Reading.real fun b v => { b with strikePos := v }]

/-- The number, moved into the interval from zero to one. -/
def clamped (x : Float) : Float := if x < 0 then 0 else if 1 < x then 1 else x

/-- The height of a block: its own, or that of the block that it falls back to. -/
def heightOf (name : String) (fallback : Option PriceBlock) (f : PriceBlockFields) :
    Except ConfigError Float :=
  if f.height ≤ 0 then
    match fallback with
    | some b => .ok b.height
    | none => .error (.invalidField name "height must be positive")
  else .ok f.height

/-- The face of a block: its own, or that of the block that it falls back to. -/
def faceOf (fallback : Option PriceBlock) (assets : AssetSource) (f : PriceBlockFields) :
    Except ConfigError FontFace :=
  if f.fontUri.isEmpty then
    match fallback with
    | some b => .ok b.face
    | none => .error (.missingField "priceOnly.fontUri")
  else FontFace.load assets f.fontUri 1

/-- The block of the given name. -/
def configure (name : String) (fallback : Option PriceBlock) (assets : AssetSource)
    (f : PriceBlockFields) : Except ConfigError PriceBlock := do
  let ink ← Rgba.parseOr f.color .white
  let height ← heightOf name fallback f
  let face ← faceOf fallback assets f
  return {
    top := f.top
    right := f.right
    verticalCenter := f.verticalCenter
    height := height
    strikeThrough := clamped f.strikeThrough
    strikeFull := f.strikeFull
    strikePos := f.strikePos
    face := face
    ink := ink }

/-- The rule through a text at `left` and `top`; it ends before the currency unless it is full. -/
def strike (b : PriceBlock) (face : FontFace) (left top width : Float) : Option PixelRect := do
  let height := face.ascent
  let thickness := truncated (greater (rounded .up (b.strikeThrough * height)) 1)
  let centre := truncated (top + height * b.strikePos)
  let trim := if b.strikeFull then 0 else face.width Price.frameSuffix
  let y ← minus? centre (thickness / 2)
  return {
    left := toCoordinate .down left
    top := y
    right := toCoordinate .up (left + width - trim)
    bottom := ← plus? y thickness }

/-- Where an amount goes on a photo; nowhere if its font would have no size. -/
def layout (b : PriceBlock) (amount : Int64) (width height : Nat) : Option (Option PriceLayout) := do
  let size := narrow (b.height * extent height)
  if size ≤ 0 then return none
  else
    let face := b.face.withSize size
    let text := Price.frameLabel amount
    let textWidth := face.width text
    let anchor := extent width - rounded .towardZero (b.right * extent width)
    let top := rounded .towardZero (b.top * extent height)
    let left := if b.verticalCenter then anchor - textWidth / 2 else anchor - textWidth
    let strike ←
      if 0 < b.strikeThrough then (b.strike face left top textWidth).map some else some none
    return some {
      text := text
      left := left
      baseline := top + face.ascent
      face := face
      strike := strike }

def write (b : PriceBlock) (l : PriceLayout) (photo : Image) : Option Image := do
  let written ← l.face.draw photo l.text l.left l.baseline b.ink
  match l.strike with
  | some rule => return written.fill rule b.ink
  | none => return written

def draw (b : PriceBlock) (amount : Int64) (photo : Image) : Option Image := do
  match ← b.layout amount photo.width photo.height with
  | none => return photo
  | some l => b.write l photo

end PriceBlock

/-! ## Frames -/

/-- What a document says of a price frame. -/
structure PriceFrameFields where
  artwork : String := ""
  promotionArtwork : String := ""
  priceOnly : PriceBlockFields := {}
  priceOrig : PriceBlockFields := {}
  pricePromo : PriceBlockFields := {}

/-- A loaded price frame. -/
structure PriceFrame where
  name : String
  artwork : Image
  promotionArtwork : Option Image
  /-- The price where there is no promotion. -/
  priceOnly : PriceBlock
  /-- The price that a promotion replaces. -/
  priceOrig : PriceBlock
  /-- The price of a promotion. -/
  pricePromo : PriceBlock
  cache : ResizeCache Image

namespace PriceFrame

def fields : List (RecordField PriceFrameFields) :=
  let block := Reading.record PriceBlock.fields {}
  [.of "frameuri" Reading.text fun f v => { f with artwork := v },
   .of "promoframeuri" Reading.text fun f v => { f with promotionArtwork := v },
   .of "priceonly" block fun f v => { f with priceOnly := v },
   .of "priceorig" block fun f v => { f with priceOrig := v },
   .of "pricepromo" block fun f v => { f with pricePromo := v }]

/-- A document with all its names, those in its blocks too, in their normal form. -/
def normalized (document : Mapping) : Mapping :=
  document.normalized.map fun (k, v) => match v with
    | .mapping inner => (k, .mapping (Mapping.normalized inner))
    | _ => (k, v)

def readFields (document : Mapping) : Except ConfigError PriceFrameFields :=
  Reading.record fields {} (.mapping (normalized document))

def loadArtwork (uri : String) (assets : AssetSource) : Except ConfigError Image :=
  (assets.image uri).mapError (.asset uri)

def ofFields (name : String) (f : PriceFrameFields) (assets : AssetSource) :
    Except ConfigError PriceFrame := do
  if f.artwork.isEmpty then throw (.missingField "frameURI")
  let artwork ← loadArtwork f.artwork assets
  let promotionArtwork ←
    if f.promotionArtwork.isEmpty then pure none
    else (loadArtwork f.promotionArtwork assets).map some
  let only ← PriceBlock.configure "priceOnly" none assets f.priceOnly
  let orig ← PriceBlock.configure "priceOrig" (some only) assets f.priceOrig
  let promo ← PriceBlock.configure "pricePromo" (some only) assets f.pricePromo
  return {
    name := name
    artwork := artwork
    promotionArtwork := promotionArtwork
    priceOnly := only
    priceOrig := orig
    pricePromo := promo
    cache := .empty .stretch }

def load (name : String) (content : Payload) (assets : AssetSource) :
    Except ConfigError PriceFrame := do
  ofFields name (← readFields (← Mapping.read content)) assets

/-- The number of sizes that are kept of the artwork. -/
def cached (f : PriceFrame) : Nat := f.cache.size

/-- The artwork at the size of a photo, and the frame with what it keeps. -/
def artworkFor (f : PriceFrame) (width height : Nat) (promotion : Bool) : Image × PriceFrame :=
  let (art, variant) := match f.promotionArtwork, promotion with
    | some art, true => (art, true)
    | _, _ => (f.artwork, false)
  let (img, cache) := f.cache.get art ⟨width, height, variant⟩
  (img, { f with cache := cache })

def drawPrices (f : PriceFrame) (pricing : Pricing) (photo : Image) : Option Image :=
  match pricing with
  | .frameOnly => some photo
  | .single amount => f.priceOnly.draw amount photo
  | .promotion full promo => do f.pricePromo.draw promo (← f.priceOrig.draw full photo)

/-- Decorates a photo, and returns the frame with what it keeps. -/
def generate (f : PriceFrame) (photo : Image) (price promo : Int64) : Option Image × PriceFrame :=
  let pricing := Pricing.ofPrices price promo
  let promotion := match pricing with
    | .promotion _ _ => true
    | _ => false
  let (art, f) := f.artworkFor photo.width photo.height promotion
  (photo.draw art 0 0 none >>= f.drawPrices pricing, f)

/-- Decorates the photo in a payload and writes it as a JPEG file.  An overflow breaks off the task
that does so. -/
def renderEncoded (f : PriceFrame) (content : Payload) (price promo : Int64) :
    Except RenderError EncodedImage × PriceFrame :=
  match AssetSource.decode content with
  | .error e => (.error (.source e), f)
  | .ok photo =>
    match f.generate photo price promo with
    | (some img, f) => (Template.encode img .jpeg, f)
    | (none, f) => (.error .task, f)

end PriceFrame
end Placard
