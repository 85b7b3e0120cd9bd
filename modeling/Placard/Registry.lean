/-
# Registries

Loaded documents by their names.  A folder is loaded as a whole: each document in it that is in
order is registered under its stem, and one that is not is passed over and changes nothing.
-/
import Placard.Asset.Source
import Placard.Text.Quoted
import Placard.Text.Sorted

namespace Placard

/-- Things by their names, in the order of the names. -/
structure Registry (α : Type) where
  entries : List (String × α)
  sorted : Text.SortedByKey entries

namespace Registry

variable {α : Type}

def empty : Registry α := ⟨[], .nil⟩

def get? (r : Registry α) (name : String) : Option α := r.entries.lookup name

def names (r : Registry α) : List String := r.entries.map (·.1)

def size (r : Registry α) : Nat := r.entries.length

/-- Registers a thing, in the place of one of the same name. -/
def insert (r : Registry α) (name : String) (thing : α) : Registry α :=
  ⟨Text.putSorted name thing r.entries, r.sorted.put⟩

def listing (r : Registry α) : String :=
  "Registry \x7b names: [" ++ String.intercalate ", " (r.names.map Text.quoted) ++ "] \x7d"

/-- How a document of a name is loaded. -/
abbrev Loader (α : Type) := String → Payload → AssetSource → Except ConfigError α

/-- Registers those of some documents that are in order, and counts them. -/
def loadAll (load : Loader α) (assets : AssetSource) : List (String × Payload) → Registry α →
    Nat × Registry α
  | [], r => (0, r)
  | (name, content) :: rest, r =>
    match load name content assets with
    | .error _ => loadAll load assets rest r
    | .ok thing =>
      let (count, r) := loadAll load assets rest (r.insert name thing)
      (count + 1, r)

/-- Registers the documents of a folder that are in order, and counts them. -/
def loadFolder (load : Loader α) (assets : AssetSource) (folder : String) (r : Registry α) :
    Except ConfigError (Nat × Registry α) :=
  match assets.listYaml folder with
  | .error e => .error (.asset folder e)
  | .ok documents => .ok (loadAll load assets documents r)

end Registry
end Placard
