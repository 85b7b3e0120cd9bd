/-
# Plugins

A template is a list of plugins.  A plugin is declared in a document, configured once, bound to the
values of each request and drawn.  Binding leaves the configured plugin alone: it gives a copy, or
nothing where the request changes nothing.
-/
import Placard.Plugin.Caption
import Placard.Plugin.Code
import Placard.Plugin.Picture

namespace Placard

/-- A plugin of one of the three kinds. -/
inductive Plugin where
  | image (p : Picture)
  | text (p : Caption)
  | qr (p : Code)

namespace Plugin
open Yaml

def kind : Plugin → PluginKind
  | image _ => .image
  | text _ => .text
  | qr _ => .qr

def isBound : Plugin → Bool
  | image p => p.isBound
  | text p => p.isBound
  | qr p => p.isBound

/-! ## Reading -/

def ofTag (tag : String) (fields : Mapping) : Except ConfigError Plugin :=
  let v := Value.mapping fields.normalized
  match Text.lower tag with
  | "image" => (Picture.reading v).map image
  | "text" => (Caption.reading v).map text
  | "qr" => (Code.reading v).map qr
  | _ => .error (.unknownPluginType tag)

/-- The plugin of an entry, which names its kind under the key `type`. -/
def ofEntry (entry : Mapping) : Except ConfigError Plugin :=
  match entry.get? "type" with
  | none => .error (.missingField "type")
  | some (.text tag) => ofTag tag (entry.erase "type")
  | some _ => .error (.invalidField "type" "must be a string")

/-! ## Life of a plugin -/

/-- Checks a declared plugin and makes what drawing it takes. -/
def configure (p : Plugin) (assets : AssetSource) : Except ConfigError Plugin :=
  match p with
  | image p => (p.configure assets).map image
  | text p => (p.configure assets).map text
  | qr p => p.configure.map qr

/-- The plugin with the values of a request; none if nothing changes. -/
def bind (p : Plugin) (values : RequestValues) (assets : AssetSource) :
    Except BindError (Option Plugin) :=
  match p with
  | image p => (p.bind values assets).map (·.map image)
  | text p => (p.bind values).map (·.map text)
  | qr p => (p.bind values).map (·.map qr)

/-- Draws a plugin, and returns it with what it keeps for the next time. -/
def draw (p : Plugin) (canvas : Image) : Drawing × Plugin :=
  match p with
  | image p => ((p.draw canvas).1, image (p.draw canvas).2)
  | text p => (p.draw canvas, text p)
  | qr p => (p.draw canvas, qr p)

/-! ## Lists of plugins -/

/-- Binds the plugins of a list in order, the first of them being number `index`. -/
def bindAll (values : RequestValues) (assets : AssetSource) : (index : Nat) → List Plugin →
    Except RenderError (List (Option Plugin))
  | _, [] => .ok []
  | index, p :: ps =>
    match p.bind values assets with
    | .error e => .error (.bind index p.kind e)
    | .ok copy => (bindAll values assets (index + 1) ps).map (copy :: ·)

/-- Draws the plugins of a list in order, the first of them being number `index`; the plugins are
returned with what they keep, whether or not all of them could be drawn.  An overflow breaks off the
task that draws them. -/
def drawAll : (index : Nat) → List Plugin → Image → Except RenderError Image × List Plugin
  | _, [], canvas => (.ok canvas, [])
  | index, p :: ps, canvas =>
    match p.draw canvas with
    | (.overflow, p) => (.error .task, p :: ps)
    | (.failed e, p) => (.error (.draw index p.kind e), p :: ps)
    | (.done canvas, p) =>
      let (result, ps) := drawAll (index + 1) ps canvas
      (result, p :: ps)

end Plugin
end Placard
