/-
# Trees of files

Files and folders by the parts of their paths.  The bundle that comes with the program is such a
tree; the disk is one too, with a folder that relative paths start from.
-/
import Placard.Payload
import Placard.Text.Blank

namespace Placard

/-- The path of a file or folder, part by part. -/
abbrev Path := List String

/-- What stands at a path. -/
inductive Entry where
  | file (content : Payload)
  | folder
  | missing
  /-- The way leads through a file, or by a name that no system takes. -/
  | blocked

/-- Files, and the folders that are there even without files in them. -/
structure FileTree where
  files : List (Path × Payload)
  folders : List Path

namespace FileTree

/-- All paths that are known to exist; every part of the way to them exists too. -/
def known (t : FileTree) : List Path := t.files.map (·.1) ++ t.folders

/-- What stands at a path. -/
def entry (t : FileTree) (p : Path) : Entry :=
  match t.files.lookup p with
  | some content => .file content
  | none => if p.isEmpty || t.known.any (p.isPrefixOf ·) then .folder else .missing

def names (t : FileTree) (folder : Path) : List String :=
  (t.known.filterMap fun p =>
    if folder.isPrefixOf p then (p.drop folder.length).head? else none).eraseDups

/-- The stem of a name that ends in `.yaml`. -/
def yamlStem? (name : String) : Option String :=
  let cs := name.toList.reverse
  if cs.take 5 = ".yaml".toList.reverse ∧ 5 < cs.length then
    some (String.ofList (cs.drop 5).reverse)
  else none

/-- The stems and contents of the files in a folder whose names end in `.yaml`; a folder of such a
name has no content, and is told apart by it. -/
def yamlEntries (t : FileTree) (folder : Path) : List (String × Entry) :=
  (t.names folder).filterMap fun name =>
    (yamlStem? name).map fun stem => (stem, t.entry (folder ++ [name]))

end FileTree

namespace Path

/-- The parts of a path of a tree: no part leads upwards, and the path does not begin with the
folder it is in. -/
def plain? (s : String) : Option Path :=
  let parts := (Text.splitAt '/' s).filter (· ≠ "")
  if parts.head? = some "." ∨ ".." ∈ parts then none else some (parts.filter (· ≠ "."))

/-- The last part of a path, if it is a name. -/
def fileName? (s : String) : Option String :=
  match ((Text.splitAt '/' s).filter fun part => part ≠ "" ∧ part ≠ ".").getLast? with
  | some ".." => none
  | name => name

def stem (name : String) : String :=
  match (name.toList.reverse.dropWhile (· ≠ '.')).drop 1 with
  | [] => name
  | cs => String.ofList cs.reverse

/-- One path after another. -/
def join (folder rest : String) : String :=
  if folder.isEmpty then rest
  else if folder.endsWith "/" then folder ++ rest
  else folder ++ "/" ++ rest

end Path

/-- The files that the program sees. -/
structure Disk where
  tree : FileTree
  /-- The folder that relative paths start from. -/
  here : Path

namespace Disk

/-- The longest name of a file, in octets. -/
def nameLimit : Nat := 255

/-- Follows the parts of a path from a folder, and tells where it ends. -/
def walk (t : FileTree) : (folder : Path) → List String → Path × Entry
  | folder, [] => (folder, .folder)
  | folder, part :: rest =>
    if part = "" ∨ part = "." then walk t folder rest
    else if part = ".." then walk t folder.dropLast rest
    else if nameLimit < part.utf8ByteSize then (folder, .blocked)
    else
      let path := folder ++ [part]
      match t.entry path with
      | .folder => walk t path rest
      | .file content => if rest.isEmpty then (path, .file content) else (path, .blocked)
      | other => (path, other)

/-- Where a path leads, and what stands there. -/
def find (d : Disk) (path : String) : Path × Entry :=
  if path.isEmpty then ([], .missing)
  else if path.toList.any (· == '\x00') then ([], .blocked)
  else walk d.tree (if path.startsWith "/" then [] else d.here) (Text.splitAt '/' path)

/-- What stands at a path. -/
def entry (d : Disk) (path : String) : Entry := (d.find path).2

def isFolder (d : Disk) (path : String) : Bool :=
  match d.entry path with
  | .folder => true
  | _ => false

/-- The disk after a file has been written, if it can be. -/
def write? (d : Disk) (path : String) (content : Payload) : Option Disk :=
  let parts := Text.splitAt '/' path
  let name := parts.getLastD ""
  let folder := if parts.length ≤ 1 then "." else String.intercalate "/" parts.dropLast ++ "/"
  if name = "" ∨ name = "." ∨ name = ".." ∨ nameLimit < name.utf8ByteSize then none
  else
    match d.find folder with
    | (place, .folder) =>
      match d.tree.entry (place ++ [name]) with
      | .folder => none
      | _ => some { d with tree := { d.tree with
          files := (place ++ [name], content) :: d.tree.files.filter (·.1 ≠ place ++ [name]) } }
    | _ => none

end Disk
end Placard
