/-
# Records in documents

What a document says is read into the types of this library strictly: a text is never made from a
number, nor a whole number from a floating one.  A record is a mapping whose keys are texts; a key
that names no field is passed over, a field that is left out keeps its default, and a null stands
for an empty list, an empty mapping or a record of defaults.  Every other value in the wrong place
makes the document unreadable.
-/
import Placard.Error
import Placard.Text.LowerCase
import Placard.Text.Sorted
import Placard.Yaml.Value

namespace Placard.Yaml

/-- How a value of a document is read. -/
abbrev Reading (α : Type) := Value → Except ConfigError α

/-- A value of the wrong kind. -/
def unreadable {α : Type} : Except ConfigError α := .error (.parse none)

/-- The value below its tags. -/
def Value.untagged : Value → Value
  | .tagged _ v => v.untagged
  | v => v

namespace Reading

def text : Reading String := fun v =>
  match v.untagged with
  | .text s => .ok s
  | _ => unreadable

def flag : Reading Bool := fun v =>
  match v.untagged with
  | .flag b => .ok b
  | _ => unreadable

/-- A whole number from `low` on and below `bound`. -/
def whole (low bound : Int) : Reading Int := fun v =>
  match v.untagged with
  | .number (.whole n) => if low ≤ n ∧ n < bound then .ok n else unreadable
  | _ => unreadable

def amount : Reading Int64 := fun v => (whole coordinateMin (coordinateMax + 1) v).map Int64.ofInt

def size : Reading Nat := fun v => (whole 0 UInt32.size v).map Int.toNat

def count : Reading Nat := fun v => (whole 0 UInt64.size v).map Int.toNat

/-- A whole number of at most 64 bits as a floating number. -/
def realOfWhole (n : Int) : Float :=
  let x := (UInt64.ofNat n.natAbs).toFloat
  if n < 0 then -x else x

/-- A floating number, which may be written as a whole one. -/
def real : Reading Float := fun v =>
  match v.untagged with
  | .number (.real x) => .ok x
  | .number (.whole n) => .ok (realOfWhole n)
  | _ => unreadable

/-- A value that may be null. -/
def optional {α : Type} (r : Reading α) : Reading (Option α)
  | .null => .ok none
  | v => (r v).map some

def list {α : Type} (r : Reading α) : Reading (List α) := fun v =>
  match v.untagged with
  | .list items => items.mapM r
  | .null => .ok []
  | _ => unreadable

def mapping : Reading Mapping := fun v =>
  match v.untagged with
  | .mapping entries => .ok entries
  | .null => .ok []
  | _ => unreadable

/-- One of some names; a local tag on a null is such a name too. -/
def choice {α : Type} (names : List (String × α)) : Reading α := fun v =>
  let name? := match v with
    | .text s => some s
    | .tagged s .null => some s
    | _ => none
  match name?.bind (fun s => names.lookup s) with
  | some a => .ok a
  | none => unreadable

end Reading

/-! ## Texts by texts -/

/-- A mapping of texts to texts, sorted by its keys. -/
def Reading.texts : Reading (List (String × String)) := fun v => do
  (← mapping v).foldlM
    (fun entries (k, v) => do return Text.putSorted (← text k) (← text v) entries) []

/-! ## Records -/

/-- A field of a record: its name, and how its value is put into the record. -/
structure RecordField (σ : Type) where
  name : String
  put : Value → σ → Except ConfigError σ

/-- The field whose value is read by `r` and put into the record by `set`. -/
def RecordField.of {α σ : Type} (name : String) (r : Reading α) (set : σ → α → σ) : RecordField σ :=
  ⟨name, fun v record => (r v).map (set record)⟩

/-- Puts the entries of a mapping into a record in their order; `seen` are the fields that have been
put. -/
def putEntries {σ : Type} (fields : List (RecordField σ)) : (seen : List String) → Mapping → σ →
    Except ConfigError σ
  | _, [], record => .ok record
  | seen, (k, v) :: rest, record => do
    let key ← Reading.text k
    match fields.find? (·.name = key) with
    | none => putEntries fields seen rest record
    | some field =>
      if key ∈ seen then unreadable
      else putEntries fields (key :: seen) rest (← field.put v record)

/-- A record that starts from `blank`. -/
def Reading.record {σ : Type} (fields : List (RecordField σ)) (blank : σ) : Reading σ := fun v => do
  putEntries fields [] (← mapping v) blank

/-! ## Keys -/

namespace Mapping

def get? (m : Mapping) (key : String) : Option Value :=
  (m.find? fun e => match e.1 with
    | .text s => s = key
    | _ => false).map (·.2)

/-- The mapping without a text key.  The last entry takes the place of the one taken out. -/
def erase (m : Mapping) (key : String) : Mapping :=
  let index := m.findIdx fun e => match e.1 with
    | .text s => s = key
    | _ => false
  match m.getLast? with
  | none => []
  | some last => if index < m.length then (m.set index last).dropLast else m

/-- Puts a value under a key, in the place of an entry with the same key. -/
def put (m : Mapping) (key value : Value) : Mapping :=
  if m.any fun e => e.1.same key then
    m.map fun e => if e.1.same key then (e.1, value) else e
  else m ++ [(key, value)]

end Mapping

/-- The form of a name in which letter case and underscores do not matter. -/
def normalName (s : String) : String := String.ofList ((Text.lower s).toList.filter (· ≠ '_'))

/-- The mapping with the names among its keys in their normal form; of two that come to the same
form, the later one gives the value. -/
def Mapping.normalized (m : Mapping) : Mapping :=
  m.foldl (fun acc (k, v) => match k with
    | .text s => acc.put (.text (normalName s)) v
    | _ => acc.put k v) []

end Placard.Yaml
