/-
# Values of a document

What a document says once its scalars are understood: a plain scalar may be null, a truth value or a
number, and every other scalar is a text.  Keys of a mapping are distinct.  A local tag stays with
its value.
-/
import Placard.Yaml.Node

namespace Placard.Yaml

/-- A number of a document. -/
inductive Number where
  | whole (n : Int)
  | real (x : Float)

/-- A value of a document. -/
inductive Value where
  | null
  | flag (b : Bool)
  | number (n : Number)
  | text (s : String)
  | list (items : List Value)
  | mapping (entries : List (Value × Value))
  | tagged (tag : String) (value : Value)

/-- The entries of a mapping, in the order in which they are written. -/
abbrev Mapping := List (Value × Value)

/-! ## Plain scalars -/

namespace Scalar

/-- A number with a leading zero, which is read as a text. -/
def isPadded (cs : List Char) : Bool :=
  let ds := match cs with
    | '-' :: ds => ds
    | '+' :: ds => ds
    | ds => ds
  1 < ds.length && ds.head? == some '0' && ds.all Char.isDigit

/-- The value of an unsigned number, which may be written to the bases 16, 8 and 2. -/
def magnitude? (cs : List Char) : Option Nat :=
  match cs with
  | '0' :: 'x' :: ds => Number.inBase? 16 ds
  | '0' :: 'o' :: ds => Number.inBase? 8 ds
  | '0' :: 'b' :: ds => Number.inBase? 2 ds
  | ds => if isPadded ds then none else Number.inBase? 10 ds

def whole? : List Char → Option Int
  | '+' :: cs => (magnitude? cs).map Int.ofNat
  | '-' :: cs => (magnitude? cs).map fun n => -(n : Int)
  | cs => (magnitude? cs).map Int.ofNat

/-- A floating number; a number that is too large for one is none. -/
def real? (cs : List Char) : Option Float :=
  let infinity := Float.ofBits 0x7FF0000000000000
  let unsigned := match cs with
    | '+' :: rest => rest
    | _ => cs
  if cs matches '+' :: '+' :: _ | '+' :: '-' :: _ then none
  else if String.ofList unsigned ∈ [".inf", ".Inf", ".INF"] then some infinity
  else if String.ofList cs ∈ ["-.inf", "-.Inf", "-.INF"] then some (-infinity)
  else if String.ofList cs ∈ [".nan", ".NaN", ".NAN"] then some (Float.ofBits 0x7FF8000000000000)
  else
    match Number.float? (String.ofList unsigned) with
    | some x => if x.isFinite then some x else none
    | none => none

def isNull (s : String) : Bool := s ∈ ["", "~", "null", "Null", "NULL"]

/-- The truth value of a text. -/
def flag? (s : String) : Option Bool :=
  if s ∈ ["true", "True", "TRUE"] then some true
  else if s ∈ ["false", "False", "FALSE"] then some false
  else none

/-- A whole number of 64 bits, with or without a sign. -/
def isWord (n : Int) : Bool := coordinateMin ≤ n && n < UInt64.size

/-- A whole number of 128 bits, with or without a sign. -/
def isLongWord (n : Int) : Bool :=
  if n < 0 then n.natAbs ≤ 1 <<< 127 else n.natAbs < 1 <<< 128

/-- A number as a value.  A whole number has at most 64 bits; a larger one of up to 128 bits is an
error, and beyond that it is read as a floating number. -/
def number? (cs : List Char) : Option (Option Value) :=
  let asReal := if isPadded cs then none else (real? cs).map fun x => some (.number (.real x))
  match whole? cs with
  | some n =>
    if isWord n then some (some (.number (.whole n)))
    else if isLongWord n then some none
    else asReal
  | none => asReal

/-- The value of a plain scalar without tag. -/
def plain (s : String) : Option Value :=
  if isNull s then some .null
  else
    match flag? s with
    | some b => some (.flag b)
    | none =>
      match number? s.toList with
      | some v => v
      | none => some (.text s)

/-- A scalar with a tag that is not local: the tags of the core schema fix how it is read, and under
any other it is a text. -/
def tagged (tag s : String) : Option Value :=
  match tag with
  | "tag:yaml.org,2002:bool" => (flag? s).map .flag
  | "tag:yaml.org,2002:int" =>
    match whole? s.toList with
    | some n => if isWord n then some (.number (.whole n)) else none
    | none => none
  | "tag:yaml.org,2002:float" => (real? s.toList).map fun x => .number (.real x)
  | "tag:yaml.org,2002:null" => if isNull s ∧ s ≠ "" then some .null else none
  | _ => some (.text s)

end Scalar

/-! ## Equal keys -/

mutual
/-- Two values are one key. -/
def Value.same : Value → Value → Bool
  | .null, .null => true
  | .flag a, .flag b => a == b
  | .number (.whole a), .number (.whole b) => a == b
  | .number (.real a), .number (.real b) => a == b || (a.isNaN && b.isNaN)
  | .text a, .text b => a == b
  | .list as, .list bs => Value.sameItems as bs
  | .mapping as, .mapping bs => as.length == bs.length && Value.sameEntries as bs
  | .tagged s a, .tagged t b => s == t && Value.same a b
  | _, _ => false

/-- Two lists hold the same values in the same order. -/
def Value.sameItems : List Value → List Value → Bool
  | [], [] => true
  | a :: as, b :: bs => Value.same a b && Value.sameItems as bs
  | _, _ => false

/-- Every entry of the first mapping is one of the second. -/
def Value.sameEntries : Mapping → Mapping → Bool
  | [], _ => true
  | (k, v) :: rest, bs =>
    bs.any (fun e => Value.same k e.1 && Value.same v e.2) && Value.sameEntries rest bs
end

/-! ## From nodes -/

namespace Node

mutual
/-- The number of events that a node is read by. -/
def events : Node → Nat
  | scalar _ _ _ => 1
  | reference _ => 1
  | sequence _ items => 2 + eventsOfItems items
  | mapping _ entries => 2 + eventsOfEntries entries

def eventsOfItems : List Node → Nat
  | [] => 0
  | n :: ns => events n + eventsOfItems ns

def eventsOfEntries : List (Node × Node) → Nat
  | [] => 0
  | (k, v) :: rest => events k + events v + eventsOfEntries rest
end

/-- The deepest nesting of collections. -/
def depthLimit : Nat := 128

/-- The name of a local tag; a tag without a name is its own. -/
def localTag? (tag : Option String) : Option String :=
  tag.bind fun t => match t.toList with
    | ['!'] => some t
    | '!' :: name => some (String.ofList name)
    | _ => none

/-- Puts a local tag back on a value. -/
def putTag (tag : Option String) (v : Value) : Value :=
  match localTag? tag with
  | some name => .tagged name v
  | none => v

mutual
/-- The value of a node at the given distance from the deepest level, and the number of aliases that
may still be followed after it. -/
def value? : (depth aliases : Nat) → Node → Option (Value × Nat)
  | _, aliases, scalar tag text plain => do
    let v ← match tag, localTag? tag with
      | some t, none => Scalar.tagged t text
      | _, _ => if plain then Scalar.plain text else some (.text text)
    return (putTag tag v, aliases)
  | _, 0, reference _ => none
  | depth, aliases + 1, reference node => value? depth aliases node
  | 0, _, sequence _ _ => none
  | depth + 1, aliases, sequence tag items => do
    let (vs, aliases) ← items? depth aliases items
    return (putTag tag (.list vs), aliases)
  | 0, _, mapping _ _ => none
  | depth + 1, aliases, mapping tag entries => do
    let (es, aliases) ← entries? depth aliases entries []
    return (putTag tag (.mapping es), aliases)

def items? : (depth aliases : Nat) → List Node → Option (List Value × Nat)
  | _, aliases, [] => some ([], aliases)
  | depth, aliases, n :: ns => do
    let (v, aliases) ← value? depth aliases n
    let (vs, aliases) ← items? depth aliases ns
    return (v :: vs, aliases)

/-- The entries of a mapping after those in `before`, whose keys are taken. -/
def entries? :
    (depth aliases : Nat) → List (Node × Node) → (before : Mapping) → Option (Mapping × Nat)
  | _, aliases, [], _ => some ([], aliases)
  | depth, aliases, (k, v) :: rest, before => do
    let (key, aliases) ← value? depth aliases k
    if before.any fun e => e.1.same key then none
    else do
      let (value, aliases) ← value? depth aliases v
      let (es, aliases) ← entries? depth aliases rest (before ++ [(key, value)])
      return ((key, value) :: es, aliases)
end

/-- The number of aliases that may be followed in a document. -/
def aliasLimit (n : Node) : Nat := 100 * n.events

end Node

/-! ## Documents -/

/-- The value of a document; a void document is null. -/
def Value.ofText? (cs : List Char) : Option Value := do
  match ← Node.ofText? cs with
  | none => return .null
  | some node => (node.value? Node.depthLimit node.aliasLimit).map (·.1)

/-- The mapping that a document consists of; one without content is an empty mapping. -/
def Mapping.ofText? (cs : List Char) : Option Mapping := do
  match ← Node.ofText? cs with
  | none => return []
  | some (.scalar _ "" true) => return []
  | some (.mapping tag entries) =>
    (Node.entries? (Node.depthLimit - 1) (Node.mapping tag entries).aliasLimit entries []).map (·.1)
  | some _ => none

end Placard.Yaml
