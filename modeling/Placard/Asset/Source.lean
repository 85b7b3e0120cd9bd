/-
# Assets

An asset is asked for by a text.  A web address is downloaded; a place among the local files is read
below the static root; every other text is the name of a file of the bundle.  Whoever asks learns
only whether there was content, whether nothing is there, or what went wrong.
-/
import Placard.Asset.FileTree
import Placard.Asset.Network
import Placard.Font.Outline

namespace Placard

/-- Where assets come from. -/
structure AssetSource where
  fetcher : Fetcher
  disk : Disk
  /-- The folder that local places are below. -/
  staticRoot : String
  bundle : FileTree
  /-- What opens the fonts among them. -/
  fonts : Font.Engine

namespace AssetSource

def ofPictures (pictures : List (String × Image)) : AssetSource where
  fetcher := ⟨⟨1, 0, "", false⟩, .none⟩
  disk := ⟨⟨[], []⟩, []⟩
  staticRoot := "/"
  bundle := ⟨pictures.map fun (name, img) => ([name], .picture ⟨.png, img⟩), []⟩
  fonts _ := none

/-- The path of a local place on the disk, if it stays below the static root. -/
def confined? (s : AssetSource) (path : String) : Option String :=
  let relative := Text.trimStart '/' path
  (Path.plain? relative).map fun _ => Path.join s.staticRoot relative

/-- The content at a local place. -/
def readLocal (s : AssetSource) (path : String) : Except AssetError Payload :=
  match s.confined? path with
  | none => .error (.notFound path)
  | some place =>
    match s.disk.entry place with
    | .file content => .ok content
    | .missing => .error (.notFound ("local:" ++ path))
    | _ => .error .io

def readBundled (s : AssetSource) (uri : String) : Except AssetError Payload :=
  match (Path.plain? (Text.trimStart '/' uri)).map s.bundle.entry with
  | some (.file content) => .ok content
  | _ => .error (.notFound uri)

def get (s : AssetSource) (uri : String) : Except AssetError Payload :=
  match Location.parse? uri with
  | some (.web _) =>
    match s.fetcher.fetch uri with
    | .ok content => .ok content
    | .error e => .error (.fetch e)
  | some (.file path) => s.readLocal path
  | none => s.readBundled uri

def decode (content : Payload) : Except AssetError Image :=
  match content.picture? with
  | some img => .ok img
  | none => .error .decode

def image (s : AssetSource) (uri : String) : Except AssetError Image := s.get uri >>= decode

/-! ## Folders of documents -/

/-- The path on the disk of a folder of documents, if it is one there: a local place, or a folder
that exists at the path itself. -/
def folderOnDisk? (s : AssetSource) (dir : String) : Option String :=
  match Location.parse? dir with
  | some (.file path) => some (Path.join s.staticRoot (Text.trimStart '/' path))
  | _ => if s.disk.isFolder dir then some dir else none

/-- The documents of a folder on the disk. -/
def listDisk (s : AssetSource) (path : String) : Except AssetError (List (String × Payload)) :=
  match s.disk.find path with
  | (place, .folder) =>
    (s.disk.tree.yamlEntries place).mapM fun (stem, entry) =>
      match entry with
      | .file content => .ok (stem, content)
      | _ => .error .io
  | (_, .missing) => .error (.notFound path)
  | _ => .error .io

/-- The documents of a folder of the bundle. -/
def listBundled (s : AssetSource) (dir : String) : Except AssetError (List (String × Payload)) :=
  match Path.plain? (Text.trimEnd '/' (Text.trimStart '/' dir)) with
  | none => .error (.notFound dir)
  | some place =>
    match s.bundle.entry place with
    | .folder =>
      .ok ((s.bundle.yamlEntries place).filterMap fun (stem, entry) =>
        match entry with
        | .file content => some (stem, content)
        | _ => none)
    | _ => .error (.notFound dir)

/-- The stems and contents of the documents directly in a folder, in the order of their stems. -/
def listYaml (s : AssetSource) (dir : String) : Except AssetError (List (String × Payload)) := do
  let found ← match s.folderOnDisk? dir with
    | some path => s.listDisk path
    | none => s.listBundled dir
  return found.mergeSort fun a b => a.1 ≤ b.1

end AssetSource
end Placard
