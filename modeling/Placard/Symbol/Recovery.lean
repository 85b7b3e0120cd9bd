/-
# Levels of error correction

How much of a symbol may be lost: four levels, written by name or by number.
-/
import Placard.Text.LowerCase
import Placard.Text.Quoted

namespace Placard

/-- How much of a damaged symbol can be recovered. -/
inductive Recovery where
  | low
  | medium
  | quartile
  | highest
  deriving DecidableEq, Repr

namespace Recovery

def name : Recovery → String
  | low => "Low"
  | medium => "Medium"
  | quartile => "Quartile"
  | highest => "Highest"

/-- The level of a name, in any letter case, or the complaint about it. -/
def ofName (s : String) : Except String Recovery :=
  match Text.lower s with
  | "low" => .ok low
  | "l" => .ok low
  | "medium" => .ok medium
  | "m" => .ok medium
  | "quartile" => .ok quartile
  | "q" => .ok quartile
  | "highest" => .ok highest
  | "high" => .ok highest
  | "h" => .ok highest
  | _ => .error ("invalid recovery level " ++ Text.quoted s)

/-- The level of a number, or the complaint about it. -/
def ofNumber : Int → Except String Recovery
  | 0 => .ok low
  | 1 => .ok medium
  | 2 => .ok quartile
  | 3 => .ok highest
  | n => .error s!"recovery level must be 0..=3, got {n}"

end Recovery
end Placard
