/-
# Tokens of a document

The tokens of a document in the data language that templates are written in.  Blocks are told by
their indentation: where it grows a block begins, and where it falls blocks end.  A key is known by
the colon after it only, so the token that announces it is put in before the key once the colon is
met; the key must be short and on one line for that.
-/
import Placard.Text.Blank
import Placard.Yaml.Scan

namespace Placard.Yaml

/-- A part of a document. -/
inductive Token where
  | version (major minor : Nat)
  | tagHandle (handle expansion : String)
  | documentStart
  | documentEnd
  | blockSequenceStart
  | blockMappingStart
  | blockEnd
  | flowSequenceStart
  | flowSequenceEnd
  | flowMappingStart
  | flowMappingEnd
  | blockEntry
  | flowEntry
  | key
  | value
  | reference (name : String)
  | anchor (name : String)
  | tag (handle suffix : String)
  | scalar (text : String) (plain : Bool)
  deriving DecidableEq, Repr

/-- A place where a key may have begun. -/
structure PossibleKey where
  /-- No other token can begin here. -/
  required : Bool
  /-- The number of tokens before it. -/
  before : Nat
  index : Nat
  line : Nat
  column : Nat

/-- The state between two tokens. -/
structure Scanner where
  cursor : Cursor
  tokens : Array Token
  /-- The column of the block in hand, below zero outside of all blocks. -/
  indent : Int
  /-- The columns of the blocks around it. -/
  outer : List Int
  keyAllowed : Bool
  /-- The possible key of the collection in hand. -/
  candidate : Option PossibleKey
  /-- Those of the collections around a flow collection, one for each. -/
  around : List (Option PossibleKey)

namespace Scanner

def ofText (cs : List Char) : Scanner := ⟨.ofText cs, #[], -1, [], true, none, []⟩

/-- The cursor is in a flow collection. -/
def inFlow (s : Scanner) : Bool := !s.around.isEmpty

def emit (s : Scanner) (t : Token) : Scanner := { s with tokens := s.tokens.push t }

def moveTo (s : Scanner) (c : Cursor) : Scanner := { s with cursor := c }

/-- Gives the possible key up. -/
def dropKey (s : Scanner) : Option Scanner :=
  match s.candidate with
  | some k => if k.required then none else some { s with candidate := none }
  | none => some s

/-- Notes that a key may begin here. -/
def saveKey (s : Scanner) : Option Scanner :=
  if s.keyAllowed then
    s.dropKey.map fun s =>
      { s with candidate := some {
          required := !s.inFlow && s.indent == (s.cursor.column : Int)
          before := s.tokens.size
          index := s.cursor.index
          line := s.cursor.line
          column := s.cursor.column } }
  else some s

/-- The longest key, in characters. -/
def keyLimit : Nat := 1024

/-- A possible key that has grown too long, or has ended with its line, is none. -/
def expire (s : Scanner) (k : Option PossibleKey) : Option (Option PossibleKey) :=
  match k with
  | some key =>
    if key.line < s.cursor.line ∨ key.index + keyLimit < s.cursor.index then
      if key.required then none else some none
    else some k
  | none => some none

/-- Gives the possible keys up that have expired. -/
def expireKeys (s : Scanner) : Option Scanner := do
  let candidate ← s.expire s.candidate
  let around ← s.around.mapM s.expire
  return { s with candidate := candidate, around := around }

/-- Begins a block at a column, if it is further right than the block in hand; the token is put in
at the given place. -/
def openBlock (s : Scanner) (column place : Nat) (t : Token) : Scanner :=
  if s.inFlow || !(s.indent < (column : Int)) then s
  else
    { s with
      outer := s.indent :: s.outer
      indent := column
      tokens := s.tokens.extract 0 place ++ #[t] ++ s.tokens.extract place }

/-- Ends the blocks further right than a column. -/
def closeBlocks (column : Int) : (outer : List Int) → Scanner → Scanner
  | outer, s =>
    if s.inFlow || !(column < s.indent) then s
    else
      match outer with
      | i :: rest =>
        closeBlocks column rest { (s.emit .blockEnd) with indent := i, outer := rest }
      | [] => s

/-- Ends the blocks further right than a column. -/
def closeTo (s : Scanner) (column : Int) : Scanner := closeBlocks column s.outer s

/-- Skips blanks, comments and line breaks. -/
def skipToToken : (fuel : Nat) → Scanner → Scanner
  | 0, s => s
  | fuel + 1, s =>
    let c := s.cursor
    let c := if c.column == 0 && c.at? '\ufeff' then c.skip 1 else c
    let c := c.skipWhile fun x => x == ' ' || ((s.inFlow || !s.keyAllowed) && x == '\t')
    let c := if c.at? '#' then c.skipWhile fun x => !isBreak x else c
    match c.rest with
    | x :: _ =>
      if isBreak x then
        skipToToken fuel { s with cursor := c.nextLine, keyAllowed := s.keyAllowed || !s.inFlow }
      else s.moveTo c
    | [] => s.moveTo c

/-! ## One token -/

/-- An indicator of `n` characters. -/
def indicator (s : Scanner) (n : Nat) (t : Token) : Scanner :=
  { (s.emit t) with cursor := s.cursor.skip n }

def marker (s : Scanner) (t : Token) : Option Scanner := do
  let s ← (s.closeTo (-1)).dropKey
  return { (s.indicator 3 t) with keyAllowed := false }

def openFlow (s : Scanner) (t : Token) : Option Scanner := do
  let s ← s.saveKey
  return { (s.indicator 1 t) with
    around := s.candidate :: s.around, candidate := none, keyAllowed := true }

def closeFlow (s : Scanner) (t : Token) : Option Scanner := do
  let s ← s.dropKey
  let s := match s.around with
    | k :: rest => { s with candidate := k, around := rest }
    | [] => s
  return { (s.indicator 1 t) with keyAllowed := false }

/-- The comma between entries of a flow collection. -/
def flowEntry (s : Scanner) : Option Scanner := do
  let s ← s.dropKey
  return { (s.indicator 1 .flowEntry) with keyAllowed := true }

/-- The hyphen before an entry of a block sequence. -/
def blockEntry (s : Scanner) : Option Scanner :=
  if !s.inFlow && !s.keyAllowed then none
  else do
    let s ← (s.openBlock s.cursor.column s.tokens.size .blockSequenceStart).dropKey
    return { (s.indicator 1 .blockEntry) with keyAllowed := true }

/-- The question mark before a key. -/
def explicitKey (s : Scanner) : Option Scanner :=
  if !s.inFlow && !s.keyAllowed then none
  else do
    let s ← (s.openBlock s.cursor.column s.tokens.size .blockMappingStart).dropKey
    return { (s.indicator 1 .key) with keyAllowed := !s.inFlow }

/-- The colon before a value. -/
def valueMark (s : Scanner) : Option Scanner :=
  match s.candidate with
  | some k =>
    let (before, after) := (s.tokens.extract 0 k.before, s.tokens.extract k.before)
    let s := { s with tokens := before ++ #[Token.key] ++ after }
    let s := s.openBlock k.column k.before .blockMappingStart
    some { (s.indicator 1 .value) with candidate := none, keyAllowed := false }
  | none =>
    if !s.inFlow && !s.keyAllowed then none
    else
      let s := s.openBlock s.cursor.column s.tokens.size .blockMappingStart
      some { (s.indicator 1 .value) with keyAllowed := !s.inFlow }

/-- A token that may be a key, as it is read from the cursor. -/
def lexeme (s : Scanner) (scan : Cursor → Option (Token × Cursor)) : Option Scanner := do
  let s ← s.saveKey
  let (t, c) ← scan s.cursor
  return { (s.emit t) with cursor := c, keyAllowed := false }

def blockScalar (s : Scanner) (literal : Bool) : Option Scanner := do
  let s ← s.dropKey
  let (text, c) ← scanBlockScalar literal s.indent s.cursor
  return { (s.emit (.scalar text false)) with cursor := c, keyAllowed := true }

def plainScalar (s : Scanner) : Option Scanner := do
  let s ← s.saveKey
  let (text, broken, c) ← scanPlain s.inFlow (s.indent + 1) s.cursor
  return { (s.emit (.scalar text true)) with cursor := c, keyAllowed := broken }

def directive (s : Scanner) : Option Scanner := do
  let s ← (s.closeTo (-1)).dropKey
  let (d, c) ← scanDirective s.cursor
  let t := match d with
    | .version major minor => Token.version major minor
    | .tag handle expansion => .tagHandle handle expansion
  return { (s.emit t) with cursor := c, keyAllowed := false }

/-- The character begins no plain scalar by itself. -/
def isIndicator (c : Char) : Bool := "-?:,[]\x7b\x7d#&*!|>'\"%@\x60".toList.contains c

/-- A plain scalar begins here. -/
def startsPlain (s : Scanner) (c : Char) (after : List Char) : Bool :=
  !(isBlank c || isBreak c || isIndicator c) ||
    (c == '-' && !(after.head?.any isBlank)) ||
    (!s.inFlow && (c == '?' || c == ':') && !atBlank after)

/-- One token from the cursor, which is at a character `c`. -/
def token (s : Scanner) (c : Char) (after : List Char) : Option Scanner :=
  let here := s.cursor
  if here.column == 0 && c == '%' then s.directive
  else if here.atMarker '-' then s.marker .documentStart
  else if here.atMarker '.' then s.marker .documentEnd
  else if c == '[' then s.openFlow .flowSequenceStart
  else if c == '\x7b' then s.openFlow .flowMappingStart
  else if c == ']' then s.closeFlow .flowSequenceEnd
  else if c == '\x7d' then s.closeFlow .flowMappingEnd
  else if c == ',' then s.flowEntry
  else if c == '-' && atBlank after then s.blockEntry
  else if c == '?' && (s.inFlow || atBlank after) then s.explicitKey
  else if c == ':' && (s.inFlow || atBlank after) then s.valueMark
  else if c == '*' then s.lexeme fun c => (scanName c).map fun (n, c) => (.reference n, c)
  else if c == '&' then s.lexeme fun c => (scanName c).map fun (n, c) => (.anchor n, c)
  else if c == '!' then
    s.lexeme fun c => (scanTag s.inFlow c).map fun (h, t, c) => (.tag h t, c)
  else if c == '|' && !s.inFlow then s.blockScalar true
  else if c == '>' && !s.inFlow then s.blockScalar false
  else if c == '\'' || c == '"' then
    s.lexeme fun cur => (scanQuoted c cur).map fun (t, c) => (.scalar t false, c)
  else if s.startsPlain c after then s.plainScalar
  else none

/-- All tokens from the cursor on. -/
def run : (fuel : Nat) → Scanner → Option (Array Token)
  | 0, _ => none
  | fuel + 1, s => do
    let s ← (skipToToken (s.cursor.rest.length + 1) s).expireKeys
    let s := s.closeTo s.cursor.column
    match s.cursor.rest with
    | [] => do
      let s ← (s.closeTo (-1)).dropKey
      return s.tokens
    | c :: after => do
      let s ← s.token c after
      run fuel s

end Scanner

def Token.ofText? (cs : List Char) : Option (List Token) :=
  if cs.all isAllowed then (Scanner.run (cs.length + 1) (.ofText cs)).map Array.toList else none

end Placard.Yaml
