/-
# Locations

What an asset is asked for by: a web address, a place among the local files, or (if it is neither)
the name of a bundled file.  Web addresses and local places are read as in the standard for
addresses on the web: blanks around them and line ends within are dropped, the scheme is taken in
any letter case, dot segments are resolved, and characters that a path does not hold are
percent-encoded.  Query and fragment never belong to a path.
-/
import Placard.Number.Reader
import Placard.Text.Blank
import Placard.Text.Quoted

namespace Placard

/-- An address on the web. -/
structure WebAddress where
  secure : Bool
  host : String
  portNumber : Nat
  /-- The parts of the path between its slashes. -/
  path : List String
  query : Option String
  deriving DecidableEq, Repr

/-- Where an asset is. -/
inductive Location where
  | web (address : WebAddress)
  /-- A path among the local files. -/
  | file (path : String)
  deriving DecidableEq, Repr

namespace Location

/-! ## Percent-encoding -/

/-- An octet as `%` and two digits. -/
def percent (b : UInt8) : List Char :=
  '%' :: (Text.hexFixed 2 b.toNat).map Char.toUpper

/-- The characters with those for which `p` holds, and all beyond ASCII, percent-encoded. -/
def percentEncode (p : Char → Bool) (cs : List Char) : List Char :=
  cs.flatMap fun c =>
    if p c || 0x7E < c.toNat then (String.singleton c).toUTF8.toList.flatMap percent else [c]

def isControl (c : Char) : Bool := c.toNat < 0x20 || c.toNat == 0x7F

/-- The characters that a path does not hold. -/
def isOutsidePath (c : Char) : Bool := isControl c || " \"#<>?`\x7b\x7d".toList.contains c

/-- The characters that a query does not hold. -/
def isOutsideQuery (c : Char) : Bool := isControl c || " \"#<>'".toList.contains c

/-- The octets of a text with its percent-encoding undone; a `%` without two digits stays. -/
def percentDecode : List Char → List UInt8
  | [] => []
  | c :: cs =>
    match c, cs with
    | '%', a :: b :: rest =>
      match Number.hexDigit? a, Number.hexDigit? b with
      | some x, some y => UInt8.ofNat (16 * x + y) :: percentDecode rest
      | _, _ => 0x25 :: percentDecode (a :: b :: rest)
    | c, cs => (String.singleton c).toUTF8.toList ++ percentDecode cs

/-! ## Paths -/

/-- The part of a path stands for the place it is in. -/
def isSingleDot (part : List Char) : Bool :=
  let s := String.ofList (part.map Char.toLower)
  s == "." || s == "%2e"

/-- The part of a path stands for the place above. -/
def isDoubleDot (part : List Char) : Bool :=
  let s := String.ofList (part.map Char.toLower)
  s == ".." || s == ".%2e" || s == "%2e." || s == "%2e%2e"

/-- The parts of a path with its dot segments resolved, after the parts `above`, last one first. -/
def resolveParts : (above : List String) → List (List Char) → List String
  | above, [] => above.reverse
  | above, [part] =>
    if isDoubleDot part then ("" :: above.drop 1).reverse
    else if isSingleDot part then ("" :: above).reverse
    else (encoded part :: above).reverse
  | above, part :: rest =>
    if isDoubleDot part then resolveParts (above.drop 1) rest
    else if isSingleDot part then resolveParts above rest
    else resolveParts (encoded part :: above) rest
where
  /-- A part as it stands in a path. -/
  encoded (part : List Char) : String := String.ofList (percentEncode isOutsidePath part)

def joinParts (parts : List String) : String := String.join (parts.map ("/" ++ ·))

/-! ## Hosts -/

/-- The characters that no host holds. -/
def isForbiddenInHost (c : Char) : Bool :=
  c.toNat == 0 || "\t\n\r #/:<>?@[\\]^|".toList.contains c

/-- The characters that the name of a host holds even less. -/
def isForbiddenInDomain (c : Char) : Bool := isForbiddenInHost c || isControl c || c == '%'

/-- A number of a numeric host: decimal, octal after a zero, hexadecimal after `0x`, where no digits
at all are zero. -/
def hostNumber? (part : List Char) : Option Nat :=
  match part with
  | [] => none
  | '0' :: 'x' :: ds => Number.digitsFrom 16 0 ds
  | '0' :: 'X' :: ds => Number.digitsFrom 16 0 ds
  | '0' :: d :: ds => Number.digitsFrom 8 0 (d :: ds)
  | ds => Number.digitsFrom 10 0 ds

/-- The value of the numbers of a numeric host: each but the last is an octet, and the last one
fills what is left. -/
def hostValue? : (left : Nat) → List Nat → Option Nat
  | _, [] => none
  | left, [last] => if last < Nat.pow 256 left then some last else none
  | left, n :: rest =>
    if n < 256 ∧ 1 < left then
      (hostValue? (left - 1) rest).map (n * Nat.pow 256 (left - 1) + ·)
    else none

/-- The host with four numbers for its value. -/
def dotted (value : Nat) : String :=
  s!"{value >>> 24 % 256}.{value >>> 16 % 256}.{value >>> 8 % 256}.{value % 256}"

/-- A host whose last part is a number is numeric altogether, or nothing. -/
def domain? (name : List Char) : Option String :=
  let parts := Text.splitList (· == '.') name
  let parts := if 1 < parts.length ∧ parts.getLast? = some [] then parts.dropLast else parts
  let numeric := match parts.getLast? with
    | some last => (!last.isEmpty && last.all Char.isDigit) || (hostNumber? last).isSome
    | none => false
  if numeric then
    if 4 < parts.length then none
    else (parts.mapM hostNumber?).bind fun ns => (hostValue? 4 ns).map dotted
  else some (String.ofList name)

/-- The groups of a host between colons, each at most four hexadecimal digits. -/
def hostGroups? (cs : List Char) : Option Nat :=
  if cs.isEmpty then some 0
  else
    let parts := Text.splitList (· == ':') cs
    let isGroup (p : List Char) : Bool :=
      !p.isEmpty && p.length ≤ 4 && p.all fun c => (Number.hexDigit? c).isSome
    match parts.getLast? with
    | some last =>
      if parts.dropLast.all isGroup then
        if isGroup last then some parts.length
        else
          -- the last two groups may be written as four decimal numbers
          let ns := Text.splitList (· == '.') last
          let isOctet (p : List Char) : Bool :=
            match Number.digits? p with
            | some n => n < 256 && (p.length == 1 || p.head? != some '0')
            | none => false
          if ns.length = 4 ∧ ns.all isOctet then some (parts.length + 1) else none
      else none
    | none => none

/-- The text between brackets is a host of eight groups, of which one run of zeros may be left out
between two colons. -/
def isBracketed (cs : List Char) : Bool :=
  match split cs with
  | (front, some back) =>
    match hostGroups? front, hostGroups? back with
    | some a, some b => a + b < 8 && !front.contains '.'
    | _, _ => false
  | (front, none) => hostGroups? front == some 8
where
  /-- What stands before and after the first two colons in a row. -/
  split : List Char → List Char × Option (List Char)
    | ':' :: ':' :: rest => ([], some rest)
    | c :: rest => let (a, b) := split rest; (c :: a, b)
    | [] => ([], none)

/-- The host of a web address. -/
def host? (cs : List Char) : Option String :=
  match cs with
  | '[' :: rest =>
    if rest.getLast? = some ']' ∧ isBracketed rest.dropLast then
      some (String.ofList (cs.map Char.toLower))
    else none
  | _ => do
    let name ← String.fromUTF8? ⟨(percentDecode cs).toArray⟩
    let lower := name.toList.map Char.toLower
    if lower.isEmpty || lower.any isForbiddenInDomain then none else domain? lower

/-- The host of a place among the local files, which does not matter otherwise, is well formed. -/
def isOpaqueHost (cs : List Char) : Bool :=
  match cs with
  | '[' :: rest => rest.getLast? = some ']' && isBracketed rest.dropLast
  | _ => !cs.any isForbiddenInHost

/-! ## Reading -/

/-- What stands between the slashes that open an authority and its path: the host, and its number
if it has one. -/
def authority? (cs : List Char) : Option (List Char × Option Nat) :=
  let credentials := cs.contains '@'
  let place := (cs.reverse.takeWhile (· != '@')).reverse
  let (host, number) :=
    match place with
    | '[' :: _ =>
      let inside := place.takeWhile (· != ']')
      let after := place.dropWhile (· != ']')
      (inside ++ after.take 1, after.drop 1)
    | _ => (place.takeWhile (· != ':'), place.dropWhile (· != ':'))
  match number with
  | [] => if credentials && host.isEmpty then none else some (host, none)
  | ':' :: digits =>
    if host.isEmpty then none
    else if digits.isEmpty then some (host, none)
    else (Number.digits? digits).bind fun n => if n < 65536 then some (host, some n) else none
  | _ => none

/-- The part of an address before its query and its fragment, and the query. -/
def cutQuery (cs : List Char) : List Char × Option (List Char) :=
  let body := cs.takeWhile (· != '#')
  match body.dropWhile (· != '?') with
  | [] => (body, none)
  | _ :: query => (body.takeWhile (· != '?'), some query)

def pathParts (isSlash : Char → Bool) (cs : List Char) : List String :=
  resolveParts [] (Text.splitList isSlash (cs.drop 1))

/-- The character divides a web address; forward and backward slashes are one there. -/
def isWebSlash (c : Char) : Bool := c == '/' || c == '\\'

/-- The web address after its scheme. -/
def web? (secure : Bool) (cs : List Char) : Option WebAddress := do
  let (body, query) := cutQuery (cs.dropWhile isWebSlash)
  let (hostText, portNumber) ← authority? (body.takeWhile (! isWebSlash ·))
  let host ← host? hostText
  return {
    secure := secure
    host := host
    portNumber := portNumber.getD (if secure then 443 else 80)
    path := pathParts isWebSlash (body.dropWhile (! isWebSlash ·))
    query := query.map fun q => String.ofList (percentEncode isOutsideQuery q) }

/-- The place among the local files after its scheme. -/
def file? (cs : List Char) : Option Location :=
  let body := (cutQuery cs).1
  let isSlash (c : Char) : Bool := c == '/'
  match body with
  | '/' :: '/' :: rest =>
    match authority? (rest.takeWhile (! isSlash ·)) with
    | some (host, _) =>
      if isOpaqueHost host then
        match rest.dropWhile (! isSlash ·) with
        | [] => some (file "")
        | path => some (file (joinParts (pathParts isSlash path)))
      else none
    | none => none
  | '/' :: _ => some (file (joinParts (pathParts isSlash body)))
  | _ => some (file (String.ofList (percentEncode isControl body)))

/-- The text without blanks and controls around it, and without tabs and line ends. -/
def tidy (s : String) : List Char :=
  let isEdge (c : Char) : Bool := c.toNat ≤ 0x20
  let cs := ((s.toList.dropWhile isEdge).reverse.dropWhile isEdge).reverse
  cs.filter fun c => !(c == '\t' || c == '\n' || c == '\r')

/-- The location that a text names, if it is not the name of a bundled file. -/
def parse? (s : String) : Option Location :=
  let cs := tidy s
  let scheme := cs.takeWhile (· != ':')
  match cs.dropWhile (· != ':') with
  | [] => none
  | _ :: rest =>
    match String.ofList (scheme.map Char.toLower) with
    | "http" => (web? false rest).map web
    | "https" => (web? true rest).map web
    | "local" => file? rest
    | _ => none

end Location
end Placard
