/-
# Places in a document

A cursor is what is left of a document, with its line and its column; what a blank and a line break
are; and the text that the blanks between two words of a folded scalar come to.
-/

namespace Placard.Yaml

def isBlank (c : Char) : Bool := c == ' ' || c == '\t'

def isBreak (c : Char) : Bool :=
  c == '\n' || c == '\r' || c == '\x85' || c == '\u2028' || c == '\u2029'

/-- The text begins with a blank or a break, or is at its end. -/
def atBlank : List Char → Bool
  | [] => true
  | c :: _ => isBlank c || isBreak c

/-- The text begins with a break, or is at its end. -/
def atBreak : List Char → Bool
  | [] => true
  | c :: _ => isBreak c

/-- A character of names: an ASCII letter or digit, a hyphen or an underscore. -/
def isNameChar (c : Char) : Bool := c.isAlphanum || c == '-' || c == '_'

/-- The characters that a document may hold. -/
def isAllowed (c : Char) : Bool :=
  let n := c.toNat
  n == 9 || n == 10 || n == 13 || (0x20 ≤ n && n ≤ 0x7E) || n == 0x85 ||
    (0xA0 ≤ n && n ≤ 0xD7FF) || (0xE000 ≤ n && n ≤ 0xFFFD) || 0x10000 ≤ n

/-- What is left of a document from a place on. -/
structure Cursor where
  rest : List Char
  index : Nat
  line : Nat
  column : Nat

namespace Cursor

def ofText (cs : List Char) : Cursor := ⟨cs, 0, 0, 0⟩

/-- The place after the next `n` characters of the line. -/
def skip (c : Cursor) (n : Nat) : Cursor :=
  ⟨c.rest.drop n, c.index + n, c.line, c.column + n⟩

/-- The place after a line break, which may be of two characters. -/
def nextLine (c : Cursor) : Cursor :=
  match c.rest with
  | '\r' :: '\n' :: rest => ⟨rest, c.index + 2, c.line + 1, 0⟩
  | b :: rest => if isBreak b then ⟨rest, c.index + 1, c.line + 1, 0⟩ else c
  | [] => c

/-- What a line break at the cursor is read as. -/
def breakText (c : Cursor) : List Char :=
  match c.rest with
  | b :: _ =>
    if b == '\u2028' || b == '\u2029' then [b] else if isBreak b then ['\n'] else []
  | [] => []

/-- The place after all characters of the line for which `p` holds, and those characters. -/
def takeWhile (c : Cursor) (p : Char → Bool) : List Char × Cursor :=
  let taken := c.rest.takeWhile p
  (taken, c.skip taken.length)

/-- The place after all characters of the line for which `p` holds. -/
def skipWhile (c : Cursor) (p : Char → Bool) : Cursor := (c.takeWhile p).2

/-- The next character is `x`. -/
def at? (c : Cursor) (x : Char) : Bool := c.rest.head? == some x

/-- The line begins with three equal characters `x` that stand alone. -/
def atMarker (c : Cursor) (x : Char) : Bool :=
  c.column == 0 && c.rest.take 3 == [x, x, x] && atBlank (c.rest.drop 3)

/-- The place after the blanks and the comment that may end a line. -/
def skipComment (c : Cursor) : Cursor :=
  let c := c.skipWhile isBlank
  if c.at? '#' then c.skipWhile fun x => !isBreak x else c

end Cursor

/-! ## Blanks between words -/

/-- The blanks since the last word: those of the line, then the first line break and the further
ones, all last one first. -/
structure Gap where
  blanks : List Char
  first : List Char
  more : List Char
  /-- A line break has been met. -/
  broken : Bool

namespace Gap

/-- No blanks. -/
def none : Gap := ⟨[], [], [], false⟩

/-- What the blanks come to: one line break is a space, and further ones are kept; blanks around a
break are dropped. -/
def text (g : Gap) : List Char :=
  if g.broken then
    if g.first = ['\n'] then (if g.more.isEmpty then [' '] else g.more.reverse)
    else g.first ++ g.more.reverse
  else g.blanks.reverse

/-- The gap after a line break. -/
def breakLine (g : Gap) (text : List Char) : Gap :=
  if g.broken then { g with more := text.reverse ++ g.more } else ⟨[], text, g.more, true⟩

end Gap

/-- The place after the blanks and line breaks at the cursor, and the gap that they make; `indent`
is the column below which a tab is refused, if any. -/
def takeGap (indent : Int) : (fuel : Nat) → Cursor → Gap → Option (Gap × Cursor)
  | 0, c, g => some (g, c)
  | fuel + 1, c, g =>
    match c.rest with
    | x :: _ =>
      if isBlank x then
        if g.broken && x == '\t' && (c.column : Int) < indent then .none
        else
          let g := if g.broken then g else { g with blanks := x :: g.blanks }
          takeGap indent fuel (c.skip 1) g
      else if isBreak x then takeGap indent fuel c.nextLine (g.breakLine c.breakText)
      else some (g, c)
    | [] => some (g, c)

end Placard.Yaml
