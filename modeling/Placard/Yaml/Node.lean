/-
# Nodes of a document

The tree that the tokens of a document stand for: scalars, sequences and mappings, with their tags,
and aliases that stand for the node of an anchor.  A document is one node; nothing but its end may
follow it.
-/
import Placard.Yaml.Token

namespace Placard.Yaml

/-- A node. -/
inductive Node where
  | scalar (tag : Option String) (text : String) (plain : Bool)
  | sequence (tag : Option String) (items : List Node)
  | mapping (tag : Option String) (entries : List (Node × Node))
  /-- The node of an anchor, met again. -/
  | reference (node : Node)

namespace Node

def empty : Node := scalar none "" true

/-- The handles of tags and what they expand to. -/
abbrev Handles := List (String × String)

/-- What a document starts with. -/
def defaultHandles : Handles := [("!", "!"), ("!!", "tag:yaml.org,2002:")]

/-- The anchors met so far, the last one first. -/
abbrev Anchors := List (String × Node)

/-- What is read of a document, with the tokens after it and the anchors met so far. -/
abbrev Taken (α : Type) := α × List Token × Anchors

/-- The tag with its handle expanded. -/
def expandTag (handles : Handles) (handle suffix : String) : Option String :=
  if handle = "" then some suffix else (handles.lookup handle).map (· ++ suffix)

/-- The properties before a node: an anchor and a tag, in either order, and the tokens after
them. -/
def properties (handles : Handles) :
    List Token → Option (Option String × Option String × List Token)
  | .anchor a :: .tag h t :: rest => (expandTag handles h t).map fun g => (some a, some g, rest)
  | .tag h t :: .anchor a :: rest => (expandTag handles h t).map fun g => (some a, some g, rest)
  | .anchor a :: rest => some (some a, none, rest)
  | .tag h t :: rest => (expandTag handles h t).map fun g => (none, some g, rest)
  | rest => some (none, none, rest)

/-- The tag of a scalar, for which a tag without a name is none. -/
def scalarTag (tag : Option String) : Option String := if tag = some "!" then none else tag

/-- No node begins with this token in the given place, so the node is left out. -/
def isLeftOut (ends : Token → Bool) : List Token → Bool
  | [] => true
  | t :: _ => ends t

mutual
/-- A node; `block` allows block collections, and `indentless` a sequence at the same
indentation. -/
def parse (handles : Handles) :
    (fuel : Nat) → (block indentless : Bool) → List Token → Anchors → Option (Taken Node)
  | 0, _, _, _, _ => none
  | _ + 1, _, _, .reference name :: ts, as => (as.lookup name).map fun n => (reference n, ts, as)
  | fuel + 1, block, indentless, ts, as => do
    let (anchor, tag, ts) ← properties handles ts
    let (node, ts, as) ← match ts with
      | .scalar text plain :: rest => some (scalar (scalarTag tag) text plain, rest, as)
      | .flowSequenceStart :: rest => do
        let (items, rest, as) ← flowItems handles fuel true rest as
        some (sequence tag items, rest, as)
      | .flowMappingStart :: rest => do
        let (entries, rest, as) ← flowEntries handles fuel true rest as
        some (mapping tag entries, rest, as)
      | .blockEntry :: _ =>
        if indentless then do
          let (items, rest, as) ← indentlessItems handles fuel ts as
          some (sequence tag items, rest, as)
        else leftOut anchor tag ts as
      | .blockSequenceStart :: rest =>
        if block then do
          let (items, rest, as) ← blockItems handles fuel rest as
          some (sequence tag items, rest, as)
        else leftOut anchor tag ts as
      | .blockMappingStart :: rest =>
        if block then do
          let (entries, rest, as) ← blockEntries handles fuel rest as
          some (mapping tag entries, rest, as)
        else leftOut anchor tag ts as
      | _ => leftOut anchor tag ts as
    return (node, ts, match anchor with
      | some a => (a, node) :: as
      | none => as)

/-- The entries of a block sequence, up to its end. -/
def blockItems (handles : Handles) :
    (fuel : Nat) → List Token → Anchors → Option (Taken (List Node))
  | 0, _, _ => none
  | _ + 1, .blockEnd :: ts, as => some ([], ts, as)
  | fuel + 1, .blockEntry :: ts, as => do
    let (item, ts, as) ←
      if isLeftOut (· matches .blockEntry | .blockEnd) ts then some (empty, ts, as)
      else parse handles fuel true false ts as
    let (items, ts, as) ← blockItems handles fuel ts as
    return (item :: items, ts, as)
  | _ + 1, _, _ => none

/-- The entries of a sequence at the indentation of its mapping. -/
def indentlessItems (handles : Handles) :
    (fuel : Nat) → List Token → Anchors → Option (Taken (List Node))
  | 0, _, _ => none
  | fuel + 1, .blockEntry :: ts, as => do
    let (item, ts, as) ←
      if isLeftOut (· matches .blockEntry | .key | .value | .blockEnd) ts then some (empty, ts, as)
      else parse handles fuel true false ts as
    let (items, ts, as) ← indentlessItems handles fuel ts as
    return (item :: items, ts, as)
  | _ + 1, ts, as => some ([], ts, as)

/-- The entries of a block mapping, up to its end. -/
def blockEntries (handles : Handles) :
    (fuel : Nat) → List Token → Anchors → Option (Taken (List (Node × Node)))
  | 0, _, _ => none
  | _ + 1, .blockEnd :: ts, as => some ([], ts, as)
  | fuel + 1, .key :: ts, as => do
    let (key, ts, as) ←
      if isLeftOut (· matches .key | .value | .blockEnd) ts then some (empty, ts, as)
      else parse handles fuel true true ts as
    let (value, ts, as) ← match ts with
      | .value :: ts =>
        if isLeftOut (· matches .key | .value | .blockEnd) ts then some (empty, ts, as)
        else parse handles fuel true true ts as
      | ts => some (empty, ts, as)
    let (entries, ts, as) ← blockEntries handles fuel ts as
    return ((key, value) :: entries, ts, as)
  | _ + 1, _, _ => none

/-- The entries of a flow sequence, up to its end; one with a key is a mapping of one entry. -/
def flowItems (handles : Handles) :
    (fuel : Nat) → (first : Bool) → List Token → Anchors → Option (Taken (List Node))
  | 0, _, _, _ => none
  | _ + 1, _, .flowSequenceEnd :: ts, as => some ([], ts, as)
  | fuel + 1, first, ts, as => do
    let ts ← match first, ts with
      | true, ts => some ts
      | false, .flowEntry :: ts => some ts
      | false, _ => none
    match ts with
    | .flowSequenceEnd :: ts => some ([], ts, as)
    | .key :: ts => do
      let (key, ts, as) ←
        if isLeftOut (· matches .value | .flowEntry | .flowSequenceEnd) ts then
          some (empty, ts.drop 1, as)
        else parse handles fuel false false ts as
      let (value, ts, as) ← flowValue handles fuel (· matches .flowEntry | .flowSequenceEnd) ts as
      let (items, ts, as) ← flowItems handles fuel false ts as
      return (mapping none [(key, value)] :: items, ts, as)
    | ts => do
      let (item, ts, as) ← parse handles fuel false false ts as
      let (items, ts, as) ← flowItems handles fuel false ts as
      return (item :: items, ts, as)

/-- The entries of a flow mapping, up to its end. -/
def flowEntries (handles : Handles) :
    (fuel : Nat) → (first : Bool) → List Token → Anchors → Option (Taken (List (Node × Node)))
  | 0, _, _, _ => none
  | _ + 1, _, .flowMappingEnd :: ts, as => some ([], ts, as)
  | fuel + 1, first, ts, as => do
    let ts ← match first, ts with
      | true, ts => some ts
      | false, .flowEntry :: ts => some ts
      | false, _ => none
    match ts with
    | .flowMappingEnd :: ts => some ([], ts, as)
    | .key :: ts => do
      let (key, ts, as) ←
        if isLeftOut (· matches .value | .flowEntry | .flowMappingEnd) ts then some (empty, ts, as)
        else parse handles fuel false false ts as
      let (value, ts, as) ← flowValue handles fuel (· matches .flowEntry | .flowMappingEnd) ts as
      let (entries, ts, as) ← flowEntries handles fuel false ts as
      return ((key, value) :: entries, ts, as)
    | ts => do
      let (key, ts, as) ← parse handles fuel false false ts as
      let (entries, ts, as) ← flowEntries handles fuel false ts as
      return ((key, empty) :: entries, ts, as)

/-- The value after a key in a flow collection, which may be left out. -/
def flowValue (handles : Handles) :
    (fuel : Nat) → (ends : Token → Bool) → List Token → Anchors → Option (Taken Node)
  | 0, _, _, _ => none
  | fuel + 1, ends, .value :: ts, as =>
    if isLeftOut ends ts then some (empty, ts, as) else parse handles fuel false false ts as
  | _ + 1, _, ts, as => some (empty, ts, as)

/-- A node of which there is nothing but its properties. -/
def leftOut (anchor tag : Option String) (ts : List Token) (as : Anchors) : Option (Taken Node) :=
  if anchor.isSome || tag.isSome then some (scalar tag "" true, ts, as) else none
end

/-! ## Documents -/

/-- The handles that the directives before a document declare. -/
def directives : List Token → (versioned : Bool) → Handles → Option (Handles × List Token)
  | .version major minor :: ts, versioned, handles =>
    if versioned || major ≠ 1 || (minor ≠ 1 && minor ≠ 2) then none
    else directives ts true handles
  | .tagHandle handle expansion :: ts, versioned, handles =>
    if (handles.lookup handle).isSome then none
    else directives ts versioned ((handle, expansion) :: handles)
  | ts, _, handles => some (handles ++ defaultHandles, ts)

/-- The root of a document, or nothing if the document is void. -/
def ofTokens? (tokens : List Token) : Option (Option Node) := do
  let fuel := 3 * tokens.length + 3
  let (node, rest) ← match tokens with
    | [] => some (none, [])
    | t :: ts =>
      if t matches .version _ _ | .tagHandle _ _ | .documentStart then do
        let (handles, rest) ← directives (t :: ts) false []
        match rest with
        | .documentStart :: rest =>
          if isLeftOut
              (· matches .version _ _ | .tagHandle _ _ | .documentStart | .documentEnd) rest then
            some (some empty, rest)
          else do
            let (node, rest, _) ← parse handles fuel true false rest []
            some (some node, rest)
        | _ => none
      else do
        let (node, rest, _) ← parse defaultHandles fuel true false tokens []
        some (some node, rest)
  if rest.all (· matches .documentEnd) then return node else none

/-- The root of the document of a text. -/
def ofText? (cs : List Char) : Option (Option Node) := Token.ofText? cs >>= ofTokens?

end Node
end Placard.Yaml
