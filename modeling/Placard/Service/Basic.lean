/-
# The service

The service holds its configuration, its assets and three registries: templates for products,
templates for codes, and price frames.  A folder of templates that cannot be listed leaves its
registry empty, and the service starts all the same.
-/
import Placard.Asset.Bundle
import Placard.Frame
import Placard.Registry
import Placard.Service.Config

namespace Placard

/-- What the program finds around it. -/
structure World where
  disk : Disk
  network : Network
  fonts : Font.Engine
  /-- The number of downloads at once that is right for the machine. -/
  slots : Nat
  /-- An address that can be listened on. -/
  listens : String → Bool

def World.assets (w : World) (c : ServiceConfig) : Except FetchError AssetSource := do
  let fetcher ← Fetcher.ofSettings c.fetchSettings w.network
  return ⟨fetcher, w.disk, c.staticRoot, Bundle.tree, w.fonts⟩

def World.config? (w : World) (path : String) : Except ProgramError (Option ServiceConfig) :=
  match w.disk.entry path with
  | .missing => .ok none
  | .file content =>
    match content.text? with
    | some text => ((ServiceConfig.ofText w.slots text).mapError .config).map some
    | none => .error .io
  | _ => .error .io

/-- The service with everything it answers from. -/
structure Service where
  config : ServiceConfig
  assets : AssetSource
  templates : Registry Template
  codes : Registry Template
  frames : Registry PriceFrame

namespace Service

/-- A service without templates. -/
def ofAssets (config : ServiceConfig) (assets : AssetSource) : Service :=
  ⟨config, assets, .empty, .empty, .empty⟩

def folder {α : Type} (load : Registry.Loader α) (assets : AssetSource) (dir : String) :
    Registry α :=
  match Registry.empty.loadFolder load assets dir with
  | .ok (_, r) => r
  | .error _ => .empty

/-- The service of a configuration, with the templates of its folders. -/
def load (config : ServiceConfig) (w : World) : Except FetchError Service := do
  let assets ← w.assets config
  return {
    config := config
    assets := assets
    templates := folder Template.load assets config.genericDir
    codes := folder Template.load assets config.qrDir
    frames := folder PriceFrame.load assets config.frameDir }

end Service
end Placard
