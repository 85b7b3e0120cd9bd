/-
# Documents in block style

The documents that are written: texts and numbers under names, with an entry on each line, indented
by the depth of its mapping.  A text is written plainly where that can be read in no other way,
between single quotes otherwise; line by line if it has several lines; and between double quotes if
some of its characters need an escape.
-/
import Placard.Text.Quoted
import Placard.Yaml.Value

namespace Placard.Yaml

/-- A document in block style. -/
inductive Block where
  | text (s : String)
  | whole (n : Nat)
  | mapping (entries : List (String × Block))

namespace Block

/-! ## Characters -/

def isBreak (c : Char) : Bool :=
  c == '\n' || c == '\r' || c.toNat == 0x85 || c.toNat == 0x2028 || c.toNat == 0x2029

/-- The character can stand in a document without an escape. -/
def isPlainly (c : Char) : Bool :=
  let n := c.toNat
  c == '\n' || (0x20 ≤ n && n ≤ 0x7E) || (0xA0 ≤ n && n ≤ 0xFFFD && n != 0xFEFF)

/-- The character separates words or lines, or ends the text. -/
def isGap (c : Char) : Bool := c == ' ' || c == '\t' || c == '\x00' || isBreak c

/-- The next character is a gap, or there is none. -/
def gapNext : List Char → Bool
  | [] => true
  | c :: _ => isGap c

/-! ## What a text allows -/

/-- A plain text cannot begin with the character. -/
def isIndicator (c : Char) : Bool := "#,[]\x7b\x7d&*!|>'\"%@`".toList.contains c

/-- A plain text cannot begin like this: with an indicator, or with a mark that a gap follows. -/
def opensBadly : List Char → Bool
  | [] => false
  | '-' :: '-' :: '-' :: _ => true
  | '.' :: '.' :: '.' :: _ => true
  | c :: rest => isIndicator c || ((c == '?' || c == ':' || c == '-') && gapNext rest)

/-- After its first character a plain text cannot hold a colon before a gap, nor a hash after
one. -/
def goesOnBadly : (before : Char) → List Char → Bool
  | _, [] => false
  | before, c :: rest =>
    (c == ':' && gapNext rest) || (c == '#' && isGap before) || goesOnBadly c rest

/-- A space stands right before the end of a line. -/
def spaceBreak : List Char → Bool
  | a :: b :: rest => (a == ' ' && isBreak b) || spaceBreak (b :: rest)
  | _ => false

/-- A space stands right after the end of a line. -/
def breakSpace : List Char → Bool
  | a :: b :: rest => (isBreak a && b == ' ') || breakSpace (b :: rest)
  | _ => false

/-- The character stands at one of the ends. -/
def atEnds (p : Char → Bool) (cs : List Char) : Bool :=
  (cs.head?.map p).getD false || (cs.getLast?.map p).getD false

/-- Only an escape brings the text through: a character of it, or a space before the end of a
line. -/
def needsEscapes (cs : List Char) : Bool := !cs.all isPlainly || spaceBreak cs

/-- The text can be written plainly. -/
def allowsPlain (cs : List Char) : Bool :=
  !(needsEscapes cs || cs.any isBreak || atEnds (· == ' ') cs || opensBadly cs ||
    match cs with
    | [] => false
    | c :: rest => goesOnBadly c rest)

/-- The text can be written between single quotes. -/
def allowsQuotes (cs : List Char) : Bool := !(needsEscapes cs || breakSpace cs)

/-- The text can be written line by line. -/
def allowsLines (cs : List Char) : Bool := !(needsEscapes cs || cs.getLast? == some ' ')

/-- A plain text would be read as something else. -/
def isAmbiguous (s : String) : Bool :=
  Scalar.isPadded s.toList || match Scalar.plain s with
    | some (.text _) => false
    | _ => true

/-! ## Written forms -/

def margin (indent : Nat) : List Char := List.replicate indent ' '

/-- The characters between single quotes; `fresh` says that a line has ended. -/
def singleQuoted (indent : Nat) : (fresh : Bool) → List Char → List Char
  | fresh, [] => if fresh then margin indent else []
  | fresh, c :: rest =>
    if isBreak c then c :: singleQuoted indent true rest
    else
      (if fresh then margin indent else []) ++ (if c == '\'' then ['\'', '\''] else [c]) ++
        singleQuoted indent false rest

def escape (c : Char) : List Char :=
  let n := c.toNat
  let hex (k : Nat) : List Char := (Text.hexFixed k n).map Char.toUpper
  '\\' :: match n with
    | 0x00 => ['0']
    | 0x07 => ['a']
    | 0x08 => ['b']
    | 0x09 => ['t']
    | 0x0A => ['n']
    | 0x0B => ['v']
    | 0x0C => ['f']
    | 0x0D => ['r']
    | 0x1B => ['e']
    | 0x22 => ['"']
    | 0x5C => ['\\']
    | 0x85 => ['N']
    | 0x2028 => ['L']
    | 0x2029 => ['P']
    | _ => if n ≤ 0xFF then 'x' :: hex 2 else if n ≤ 0xFFFF then 'u' :: hex 4 else 'U' :: hex 8

/-- The characters between double quotes. -/
def doubleQuoted (cs : List Char) : List Char :=
  cs.flatMap fun c =>
    if !isPlainly c || isBreak c || c == '"' || c == '\\' then escape c else [c]

/-- The lines of a text with their margin and the end of the last one. -/
def lines (indent : Nat) : (fresh : Bool) → List Char → List Char
  | fresh, [] => if fresh then [] else ['\n']
  | fresh, c :: rest =>
    if isBreak c then c :: lines indent true rest
    else (if fresh then margin indent else []) ++ c :: lines indent false rest

/-- The text ends with an empty line, or is one. -/
def endsOpen (cs : List Char) : Bool :=
  match cs.reverse with
  | [c] => isBreak c
  | c :: d :: _ => isBreak c && isBreak d
  | [] => false

/-- What follows the mark of a text that is written line by line: the width of the margin where the
text begins with a gap, and what becomes of the end of the last line. -/
def lineHints (cs : List Char) : List Char :=
  (if (cs.head?.map fun c => c == ' ' || isBreak c).getD false then ['2'] else []) ++
  (if (cs.getLast?.map isBreak).getD false then (if endsOpen cs then ['+'] else []) else ['-'])

/-- The text is written line by line. -/
def usesLines (s : String) : Bool := s.toList.contains '\n' && allowsLines s.toList

/-- A text after its name, with the end of the line. -/
def writeText (indent : Nat) (s : String) : List Char :=
  let cs := s.toList
  if usesLines s then '|' :: lineHints cs ++ '\n' :: lines indent true cs
  else if !isAmbiguous s && allowsPlain cs then cs ++ ['\n']
  else if !cs.contains '\n' && allowsQuotes cs then
    '\'' :: singleQuoted indent false cs ++ ['\'', '\n']
  else '"' :: doubleQuoted cs ++ ['"', '\n']

mutual
/-- What follows a name in a mapping that is indented by `indent`. -/
def write (indent : Nat) : Block → List Char
  | text s => ' ' :: writeText (indent + 2) s
  | whole n => ' ' :: (Nat.repr n).toList ++ ['\n']
  | mapping entries => '\n' :: writeEntries (indent + 2) entries

def writeEntries (indent : Nat) : List (String × Block) → List Char
  | [] => []
  | (name, block) :: rest =>
    margin indent ++ name.toList ++ ':' :: write indent block ++ writeEntries indent rest
end

def document (entries : List (String × Block)) : String := String.ofList (writeEntries 0 entries)

end Block
end Placard.Yaml
