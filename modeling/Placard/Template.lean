/-
# Templates

A template is a list of configured plugins, the widths that an image may have, and the proportion of
its sides.  A render binds all plugins to the values of the request, in their order, and then draws
all of them on one canvas, in their order; nothing comes of it unless all of that succeeds.
-/
import Placard.Plugin.Basic

namespace Placard
open Yaml

/-- The mapping that a document consists of. -/
def Yaml.Mapping.read (content : Payload) : Except ConfigError Mapping :=
  match content.text?.bind fun s => Mapping.ofText? s.toList with
  | some m => .ok m
  | none => unreadable

/-- What a document says of a template. -/
structure TemplateFields where
  widths : List Nat := []
  ratio : Float := 0
  background : String := ""
  plugins : List Mapping := []

/-- A loaded template. -/
structure Template where
  name : String
  /-- The width of an image whose request names none that is allowed. -/
  defaultWidth : Nat
  otherWidths : List Nat
  /-- The width of an image as a multiple of its height. -/
  ratio : Float
  background : Option Rgba
  plugins : List Plugin

namespace Template

/-! ## Loading -/

def fields : List (RecordField TemplateFields) := [
  .of "allwidths" (Reading.list Reading.size) fun t v => { t with widths := v },
  .of "widthheightratio" Reading.real fun t v => { t with ratio := v },
  .of "backgroundcolor" Reading.text fun t v => { t with background := v },
  .of "plugins" (Reading.list Reading.mapping) fun t v => { t with plugins := v }]

def readFields (document : Mapping) : Except ConfigError TemplateFields :=
  Reading.record fields {} (.mapping document.normalized)

/-- The background of a written color; a blank text is none. -/
def backgroundOf (s : String) : Except ConfigError (Option Rgba) :=
  let trimmed := Text.trim s
  if trimmed.isEmpty then .ok none else (Rgba.parse trimmed).map some

def loadPlugin (assets : AssetSource) (index : Nat) (entry : Mapping) : Except ConfigError Plugin :=
  match Plugin.ofEntry entry with
  | .error e => .error (.pluginEntry index e)
  | .ok p =>
    match p.configure assets with
    | .error e => .error (.plugin index p.kind e)
    | .ok configured => .ok configured

/-- The configured plugins of some entries, the first of them being number `index`. -/
def loadPlugins (assets : AssetSource) : (index : Nat) → List Mapping →
    Except ConfigError (List Plugin)
  | _, [] => .ok []
  | index, entry :: rest => do
    let p ← loadPlugin assets index entry
    let ps ← loadPlugins assets (index + 1) rest
    return p :: ps

def ofFields (name : String) (f : TemplateFields) (assets : AssetSource) :
    Except ConfigError Template :=
  match f.widths with
  | [] => .error (.missingField "allWidths")
  | first :: others => do
    if 0 ∈ f.widths then throw (.invalidField "allWidths" "widths must be positive")
    let background ← backgroundOf f.background
    let plugins ← loadPlugins assets 0 f.plugins
    return {
      name := name
      defaultWidth := first
      otherWidths := others
      ratio := if 0 < f.ratio then f.ratio else 1
      background := background
      plugins := plugins }

def load (name : String) (content : Payload) (assets : AssetSource) :
    Except ConfigError Template := do
  ofFields name (← readFields (← Mapping.read content)) assets

/-! ## Sizes -/

def widths (t : Template) : List Nat := t.defaultWidth :: t.otherWidths

/-- The requested width, if an image may have it. -/
def selectWidth (t : Template) (requested : Nat) : Nat :=
  if requested ∈ t.widths then requested else t.defaultWidth

/-- The height of an image of the given width. -/
def deriveHeight (t : Template) (width : Nat) : Nat := toSize .down (extent width / t.ratio)

/-- The empty canvas of the given width. -/
def canvas (t : Template) (width : Nat) : Image :=
  .canvas width (t.deriveHeight width) t.background

/-! ## Rendering -/

/-- The plugins after a render in which copies stood in for some of them: a copy is given up, and
the plugins that were drawn themselves have kept what they made. -/
def keep : (plugins : List Plugin) → (copies : List (Option Plugin)) → (drawn : List Plugin) →
    List Plugin
  | p :: ps, copy :: copies, q :: qs => (if copy.isNone then q else p) :: keep ps copies qs
  | ps, _, _ => ps

/-- Renders the template with the values of a request, and returns it with what its plugins keep. -/
def render (t : Template) (values : RequestValues) (requestedWidth : Nat) (assets : AssetSource) :
    Except RenderError Image × Template :=
  match Plugin.bindAll values assets 0 t.plugins with
  | .error e => (.error e, t)
  | .ok copies =>
    let bound := t.plugins.zipWith (fun p copy => copy.getD p) copies
    let (result, drawn) := Plugin.drawAll 0 bound (t.canvas (t.selectWidth requestedWidth))
    (result, { t with plugins := keep t.plugins copies drawn })

/-- An image in a format, if it can be written. -/
def encode (img : Image) (format : ImageFormat) : Except RenderError EncodedImage :=
  match EncodedImage.ofImage? img format with
  | some e => .ok e
  | none => .error .encode

def renderEncoded (t : Template) (values : RequestValues) (requestedWidth : Nat)
    (format : ImageFormat) (assets : AssetSource) : Except RenderError EncodedImage × Template :=
  let (result, t) := t.render values requestedWidth assets
  (result >>= (encode · format), t)

end Template
end Placard
