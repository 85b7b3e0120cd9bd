/-
# Colors written in hexadecimal

A color is written as three, four, six or eight hexadecimal digits, after any number of `#` and
between any blanks: one digit or two for each of red, green, blue and, if given, alpha.
-/
import Placard.Error
import Placard.Number.Reader
import Placard.Text.Blank
import Placard.Text.Quoted

namespace Placard.Rgba

/-- The value of a hexadecimal digit. -/
def hexValue? (c : Char) : Option UInt8 :=
  (Number.hexDigit? c).map UInt8.ofNat

/-- The color of a list of digits; a short digit stands for two equal ones. -/
def ofDigits? : List UInt8 → Option Rgba
  | [r, g, b] => some ⟨r * 17, g * 17, b * 17, 255⟩
  | [r, g, b, a] => some ⟨r * 17, g * 17, b * 17, a * 17⟩
  | [r, r', g, g', b, b'] => some ⟨r * 16 + r', g * 16 + g', b * 16 + b', 255⟩
  | [r, r', g, g', b, b', a, a'] => some ⟨r * 16 + r', g * 16 + g', b * 16 + b', a * 16 + a'⟩
  | _ => none

/-- The color that a text writes. -/
def parse? (s : String) : Option Rgba :=
  ((Text.trimList s.toList).dropWhile (· == '#')).mapM hexValue? >>= ofDigits?

/-- The color that a text writes, or the complaint about it. -/
def parse (s : String) : Except ConfigError Rgba :=
  match parse? s with
  | some color => .ok color
  | none => .error (.invalidColor s)

/-- The color that a text writes; a blank text stands for the given one. -/
def parseOr (s : String) (color : Rgba) : Except ConfigError Rgba :=
  if (Text.trim s).isEmpty then .ok color else parse s

def hexByte (n : UInt8) : List Char := Text.hexFixed 2 n.toNat

def digits (c : Rgba) : List Char :=
  hexByte c.red ++ hexByte c.green ++ hexByte c.blue ++ hexByte c.alpha

end Placard.Rgba
