/-
# Lexemes

How the longer tokens of a document are read from a cursor: scalars in their five styles, names,
tags and directives.
-/
import Placard.Number.Reader
import Placard.Yaml.Cursor

namespace Placard.Yaml

/-! ## Plain scalars -/

/-- The text goes on with a colon that ends a plain scalar, or in a flow collection with one of its
indicators. -/
def endsPlain (flow : Bool) : List Char → Bool
  | ':' :: after => atBlank after
  | c :: _ => flow && ",[]\x7b\x7d".toList.contains c
  | [] => false

/-- A colon right before an indicator of a flow collection. -/
def isStrayColon (flow : Bool) : List Char → Bool
  | ':' :: c :: _ => flow && ",?[]\x7b\x7d".toList.contains c
  | _ => false

/-- The characters of a plain scalar up to the next blank, break or end, last one first, after those
in `taken`; and whether the scalar ends there. -/
def plainWord (flow : Bool) : List Char → (taken : List Char) → (count : Nat) →
    Option (List Char × Nat × Bool)
  | [], taken, n => some (taken, n, true)
  | c :: cs, taken, n =>
    if isBlank c || isBreak c then some (taken, n, false)
    else if isStrayColon flow (c :: cs) then none
    else if endsPlain flow (c :: cs) then some (taken, n, true)
    else plainWord flow cs (c :: taken) (n + 1)

/-- A plain scalar from the cursor on, after the text `taken`, last character first, and a gap. -/
def plainFrom (flow : Bool) (indent : Int) :
    (fuel : Nat) → Cursor → (taken : List Char) → Gap → Option (List Char × Bool × Cursor)
  | 0, c, taken, g => some (taken, g.broken, c)
  | fuel + 1, c, taken, g =>
    if c.atMarker '-' || c.atMarker '.' || c.at? '#' then some (taken, g.broken, c)
    else do
      let (word, n, ended) ← plainWord flow c.rest [] 0
      let taken := if n = 0 then taken else word ++ (g.text.reverse ++ taken)
      let g := if n = 0 then g else Gap.none
      let c := c.skip n
      if ended then return (taken, g.broken, c)
      else
        let (g, c) ← takeGap indent (c.rest.length + 1) c g
        if !flow && (c.column : Int) < indent then return (taken, g.broken, c)
        else plainFrom flow indent fuel c taken g

/-- A plain scalar, whether it ended after a line break, and the place after it. -/
def scanPlain (flow : Bool) (indent : Int) (c : Cursor) : Option (String × Bool × Cursor) :=
  (plainFrom flow indent (c.rest.length + 1) c [] .none).map fun (taken, broken, c) =>
    (String.ofList taken.reverse, broken, c)

/-! ## Quoted scalars -/

/-- The character of a code point, if it has one. -/
def charOf? (n : Nat) : Option Char :=
  if h : n.isValidChar then some (Char.ofNatAux n h) else none

/-- The character of an escape, and the length of the escape after its backslash. -/
def escape? : List Char → Option (Char × Nat)
  | [] => none
  | c :: cs =>
    let coded (n : Nat) : Option (Char × Nat) :=
      if (cs.take n).length = n then do
        let digits ← (cs.take n).mapM Number.hexDigit?
        let x ← charOf? (digits.foldl (fun v d => 16 * v + d) 0)
        return (x, n + 1)
      else none
    match c with
    | '0' => some ('\x00', 1)
    | 'a' => some ('\x07', 1)
    | 'b' => some ('\x08', 1)
    | 't' => some ('\t', 1)
    | '\t' => some ('\t', 1)
    | 'n' => some ('\n', 1)
    | 'v' => some ('\x0b', 1)
    | 'f' => some ('\x0c', 1)
    | 'r' => some ('\r', 1)
    | 'e' => some ('\x1b', 1)
    | ' ' => some (' ', 1)
    | '"' => some ('"', 1)
    | '/' => some ('/', 1)
    | '\\' => some ('\\', 1)
    | 'N' => some ('\x85', 1)
    | '_' => some ('\xa0', 1)
    | 'L' => some ('\u2028', 1)
    | 'P' => some ('\u2029', 1)
    | 'x' => coded 2
    | 'u' => coded 4
    | 'U' => coded 8
    | _ => none

/-- The rest of a quoted scalar, after the text `taken`, last character first; `escaped` tells that
a line break right before the cursor was escaped. -/
def quotedFrom (quote : Char) :
    (fuel : Nat) → Cursor → (taken : List Char) → (escaped : Bool) → Option (List Char × Cursor)
  | 0, _, _, _ => none
  | fuel + 1, c, taken, escaped =>
    if c.atMarker '-' || c.atMarker '.' then none
    else
      match c.rest with
      | [] => none
      | x :: after =>
        if isBlank x || isBreak x then do
          let g : Gap := if escaped then ⟨[], [], [], true⟩ else .none
          let (g, c) ← takeGap (-1) (c.rest.length + 1) c g
          quotedFrom quote fuel c (g.text.reverse ++ taken) false
        else if quote == '\'' && x == '\'' && after.head? == some '\'' then
          quotedFrom quote fuel (c.skip 2) ('\'' :: taken) false
        else if x == quote then some (taken, c.skip 1)
        else if quote == '"' && x == '\\' then
          if after.head?.any isBreak then
            quotedFrom quote fuel (c.skip 1).nextLine taken true
          else do
            let (y, n) ← escape? after
            quotedFrom quote fuel (c.skip (n + 1)) (y :: taken) false
        else quotedFrom quote fuel (c.skip 1) (x :: taken) false

/-- A scalar between quotes, and the place after it. -/
def scanQuoted (quote : Char) (c : Cursor) : Option (String × Cursor) :=
  (quotedFrom quote (c.rest.length + 1) (c.skip 1) [] false).map fun (taken, c) =>
    (String.ofList taken.reverse, c)

/-! ## Block scalars -/

/-- What becomes of the line breaks at the end of a block scalar. -/
inductive Chomping where
  | strip
  | clip
  | keep
  deriving DecidableEq

/-- The header of a block scalar after its indicator: chomping, indentation and the place after
them. -/
def blockHeader (c : Cursor) : Option (Chomping × Nat × Cursor) :=
  let chomping? (c : Cursor) : Option Chomping :=
    if c.at? '+' then some .keep else if c.at? '-' then some .strip else none
  let digit? (c : Cursor) : Option Nat :=
    match c.rest with
    | x :: _ => if x.isDigit then some (x.toNat - 48) else none
    | [] => none
  match chomping? c, digit? c with
  | some h, _ =>
    let c := c.skip 1
    match digit? c with
    | some 0 => none
    | some n => some (h, n, c.skip 1)
    | none => some (h, 0, c)
  | none, some 0 => none
  | none, some n =>
    let c := c.skip 1
    match chomping? c with
    | some h => some (h, n, c.skip 1)
    | none => some (.clip, n, c)
  | none, none => some (.clip, 0, c)

/-- The line breaks before the next line of a block scalar, last one first, the widest indentation
among them, and the place after them; `indent` is zero if it is not known yet. -/
def blockBreaks (indent : Nat) :
    (fuel : Nat) → Cursor → (breaks : List Char) → (widest : Nat) →
      Option (List Char × Nat × Cursor)
  | 0, c, breaks, widest => some (breaks, widest, c)
  | fuel + 1, c, breaks, widest =>
    let spaces := (c.rest.takeWhile (· == ' ')).length
    let c := c.skip (if indent = 0 then spaces else min spaces (indent - c.column))
    let widest := max widest c.column
    if (indent = 0 ∨ c.column < indent) ∧ c.at? '\t' then none
    else
      match c.rest with
      | x :: _ =>
        if isBreak x then
          blockBreaks indent fuel c.nextLine (c.breakText.reverse ++ breaks) widest
        else some (breaks, widest, c)
      | [] => some (breaks, widest, c)

/-- The lines of a block scalar: the text so far, the break that ended the last line and the breaks
after it are all last one first. -/
def blockLines (literal : Bool) (indent : Nat) :
    (fuel : Nat) → Cursor → (taken last more : List Char) → (blankBefore : Bool) →
      Option (List Char × List Char × List Char × Cursor)
  | 0, c, taken, last, more, _ => some (taken, last, more, c)
  | fuel + 1, c, taken, last, more, blankBefore =>
    if c.column ≠ indent ∨ c.rest.isEmpty then some (taken, last, more, c)
    else do
      let blank := c.rest.head?.any isBlank
      let folded := !literal && last == ['\n'] && !blankBefore && !blank
      let join := if folded then (if more.isEmpty then [' '] else more) else more ++ last
      let (line, c) := c.takeWhile fun x => !isBreak x
      let ended := c.breakText
      let (more, _, c) ← blockBreaks indent (c.rest.length + 1) c.nextLine [] 0
      blockLines literal indent fuel c (line.reverse ++ (join ++ taken)) ended more blank

/-- A block scalar within a block at column `parent`, and the place after it. -/
def scanBlockScalar (literal : Bool) (parent : Int) (c : Cursor) : Option (String × Cursor) := do
  let (chomping, increment, c) ← blockHeader (c.skip 1)
  let c := c.skipComment
  if !atBreak c.rest then none
  else
    let c := c.nextLine
    let given := if increment = 0 then 0 else (max parent 0).toNat + increment
    let (breaks, widest, c) ← blockBreaks given (c.rest.length + 1) c [] 0
    let indent := if given = 0 then max (max widest (parent + 1).toNat) 1 else given
    let (taken, last, more, c) ←
      blockLines literal indent (c.rest.length + 1) c [] [] breaks false
    let tail := match chomping with
      | .strip => []
      | .clip => last
      | .keep => more ++ last
    return (String.ofList (tail ++ taken).reverse, c)

/-! ## Names, tags and directives -/

def scanName (c : Cursor) : Option (String × Cursor) :=
  let (name, c) := (c.skip 1).takeWhile isNameChar
  let ended := match c.rest with
    | x :: _ => isBlank x || isBreak x || "?:,]\x7d%@\x60".toList.contains x
    | [] => true
  if name.isEmpty || !ended then none else some (String.ofList name, c)

/-- A character of addresses; those that flow collections are made of only where `wide` holds. -/
def isTagChar (wide : Bool) (c : Char) : Bool :=
  isNameChar c || ";/?:@&=+$.%!~*'()".toList.contains c || (wide && ",[]".toList.contains c)

/-- The octets of a run of `%` escapes, and what follows them. -/
def escapedOctets : (fuel : Nat) → List Char → List UInt8 × List Char
  | 0, cs => ([], cs)
  | fuel + 1, cs =>
    match cs with
    | '%' :: a :: b :: rest =>
      match Number.hexDigit? a, Number.hexDigit? b with
      | some x, some y =>
        let (octets, rest) := escapedOctets fuel rest
        (UInt8.ofNat (16 * x + y) :: octets, rest)
      | _, _ => ([], cs)
    | _ => ([], cs)

/-- A text with its `%` escapes undone, if they are sound. -/
def unescape : (fuel : Nat) → List Char → Option (List Char)
  | 0, _ => some []
  | _ + 1, [] => some []
  | fuel + 1, c :: cs =>
    if c == '%' then
      match escapedOctets (c :: cs).length (c :: cs) with
      | ([], _) => none
      | (octets, rest) => do
        let text ← String.fromUTF8? ⟨octets.toArray⟩
        let tail ← unescape fuel rest
        return text.toList ++ tail
    else (unescape fuel cs).map (c :: ·)

/-- The characters of an address at the cursor, and the place after them. -/
def scanAddress (wide : Bool) (c : Cursor) : Option (List Char × Cursor) :=
  let (raw, c) := c.takeWhile (isTagChar wide)
  (unescape (raw.length + 1) raw).map fun text => (text, c)

/-- The handle of a tag: an exclamation mark, a name and possibly another mark. -/
def scanHandle (c : Cursor) : Option (List Char × Cursor) :=
  if c.at? '!' then
    let (name, c) := (c.skip 1).takeWhile isNameChar
    if c.at? '!' then some ('!' :: (name ++ ['!']), c.skip 1) else some ('!' :: name, c)
  else none

/-- A tag: its handle, its suffix and the place after it. -/
def scanTag (flow : Bool) (c : Cursor) : Option (String × String × Cursor) := do
  let (handle, suffix, c) ←
    if c.rest.take 2 == ['!', '<'] then do
      let (suffix, c) ← scanAddress true (c.skip 2)
      if suffix.isEmpty || !c.at? '>' then none else some ("", suffix, c.skip 1)
    else do
      let (handle, c) ← scanHandle c
      let (more, c) ← scanAddress false c
      if 1 < handle.length && handle.getLast? == some '!' then
        if more.isEmpty then none else some (String.ofList handle, more, c)
      else
        match handle.drop 1 ++ more with
        | [] => some ("", ['!'], c)
        | suffix => some ("!", suffix, c)
  if atBlank c.rest || (flow && c.at? ',') then return (handle, String.ofList suffix, c) else none

/-- What a directive declares. -/
inductive Directive where
  | version (major minor : Nat)
  | tag (handle expansion : String)

/-- The digits of a version number, at most nine, and the place after them. -/
def scanNumber (c : Cursor) : Option (Nat × Cursor) :=
  let (digits, c) := c.takeWhile Char.isDigit
  if 9 < digits.length then none else (Number.digits? digits).map fun n => (n, c)

def scanDeclaration (name : List Char) (c : Cursor) : Option (Directive × Cursor) :=
  match String.ofList name with
  | "YAML" => do
    let (major, c) ← scanNumber (c.skipWhile isBlank)
    if !c.at? '.' then none
    else do
      let (minor, c) ← scanNumber (c.skip 1)
      return (.version major minor, c)
  | "TAG" => do
    let (handle, c) ← scanHandle (c.skipWhile isBlank)
    if (handle.length ≠ 1 ∧ handle.getLast? ≠ some '!') ∨ !(c.rest.head?.any isBlank) then none
    else do
      let (expansion, c) ← scanAddress true (c.skipWhile isBlank)
      if expansion.isEmpty || !atBlank c.rest then none
      else return (.tag (String.ofList handle) (String.ofList expansion), c)
  | _ => none

def scanDirective (c : Cursor) : Option (Directive × Cursor) := do
  let (name, c) := (c.skip 1).takeWhile isNameChar
  if name.isEmpty || !atBlank c.rest then none
  else do
    let (d, c) ← scanDeclaration name c
    let c := c.skipComment
    if atBreak c.rest then return (d, c.nextLine) else none

end Placard.Yaml
