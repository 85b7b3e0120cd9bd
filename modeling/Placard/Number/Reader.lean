/-
# Numbers read from texts

The grammars of digits to a base, of whole numbers and of floating numbers: an optional sign and
decimal digits for a whole number; for a floating one digits with at most one point and an optional
exponent, or the name of an infinity or of what is not a number, in any letter case.
-/
import Placard.Number.Shortest

namespace Placard.Number

/-- The value of a hexadecimal digit, in either letter case. -/
def hexDigit? (c : Char) : Option Nat :=
  if c.isDigit then some (c.toNat - 48)
  else if 'a' ≤ c && c ≤ 'f' then some (c.toNat - 87)
  else if 'A' ≤ c && c ≤ 'F' then some (c.toNat - 55)
  else none

/-- The value of a list of digits to a base, put after the digits of `n`. -/
def digitsFrom (base n : Nat) : List Char → Option Nat
  | [] => some n
  | c :: cs =>
    match hexDigit? c with
    | some d => if d < base then digitsFrom base (base * n + d) cs else none
    | none => none

/-- The value of one or more digits to a base. -/
def inBase? (base : Nat) (cs : List Char) : Option Nat :=
  if cs.isEmpty then none else digitsFrom base 0 cs

def digits? (cs : List Char) : Option Nat := inBase? 10 cs

/-- A whole number with an optional sign. -/
def whole? : List Char → Option Int
  | '-' :: cs => (digits? cs).map fun n => -(n : Int)
  | '+' :: cs => (digits? cs).map Int.ofNat
  | cs => (digits? cs).map Int.ofNat

/-- A signed 64-bit number; one out of range is refused. -/
def amount? (s : String) : Option Int64 :=
  match whole? s.toList with
  | some n => if coordinateMin ≤ n ∧ n ≤ coordinateMax then some (Int64.ofInt n) else none
  | none => none

/-- A number from 0 below `bound`, with an optional plus sign. -/
def natural? (bound : Nat) (s : String) : Option Nat :=
  let unsigned := match s.toList with
    | '+' :: cs => cs
    | cs => cs
  match digits? unsigned with
  | some n => if n < bound then some n else none
  | none => none

def size? (s : String) : Option Nat := natural? UInt32.size s

/-- `digits · 10 ^ power` as the nearest double; far outside the range of doubles it is an infinity
or zero. -/
def ofDecimal (negative : Bool) (digits : Nat) (power : Int) : Float :=
  let top := power + (digits.log2 : Int) * 1233 / 4096
  let x : Float :=
    if digits = 0 then 0
    else if 400 < top then Float.ofBits 0x7FF0000000000000
    else if top < -400 then 0
    else if 0 ≤ power then Float.ofScientific digits false power.toNat
    else Float.ofScientific digits true (-power).toNat
  if negative then -x else x

/-- The part of a number after its mantissa: nothing, or an exponent. -/
def exponent? : List Char → Option Int
  | [] => some 0
  | c :: cs => if c = 'e' ∨ c = 'E' then whole? cs else none

/-- The digits of a number without sign, with at most one point and an optional exponent. -/
def unsigned? (cs : List Char) : Option (Nat × Int) :=
  let before := cs.takeWhile Char.isDigit
  let rest := cs.dropWhile Char.isDigit
  let (after, rest) := match rest with
    | '.' :: more => (more.takeWhile Char.isDigit, more.dropWhile Char.isDigit)
    | _ => ([], rest)
  match digits? (before ++ after), exponent? rest with
  | some n, some e => some (n, e - after.length)
  | _, _ => none

def float? (s : String) : Option Float :=
  let (negative, cs) := match s.toList with
    | '-' :: cs => (true, cs)
    | '+' :: cs => (false, cs)
    | cs => (false, cs)
  let name := String.ofList (cs.map Char.toLower)
  if name = "inf" ∨ name = "infinity" then
    some (Float.ofBits (if negative then 0xFFF0000000000000 else 0x7FF0000000000000))
  else if name = "nan" then some (Float.ofBits 0x7FF8000000000000)
  else (unsigned? cs).map fun (n, e) => ofDecimal negative n e

end Placard.Number
