/-
# Request values

What a request brings along: values under keys whose letter case does not matter.  A value is read
as a text or as a whole number; a missing one is the empty text, and the number zero.
-/
import Placard.Error
import Placard.Number.Reader
import Placard.Text.Blank
import Placard.Text.LowerCase

namespace Placard

/-- A value of a request. -/
inductive RequestValue where
  | whole (n : Int64)
  | real (x : Float)
  | text (s : String)

namespace RequestValue

def isWhole (x : Float) : Bool :=
  match Binary.ofFloat x with
  | .finite _ significand power => 0 ≤ power || significand % 1 <<< (-power).toNat = 0
  | _ => false

def toText : RequestValue → String
  | whole n => toString n.toInt
  | real x => Decimal.ofFloat x
  | text s => s

/-- A value as a whole number, if it is one: blanks around a text do not matter, and a blank text is
zero. -/
def toAmount? : RequestValue → Option Int64
  | whole n => some n
  | real x => if isWhole x then some (truncated x) else none
  | text s =>
    let trimmed := Text.trim s
    if trimmed.isEmpty then some 0 else Number.amount? trimmed

end RequestValue

/-- The values of a request by their keys in lower case, each key once. -/
structure RequestValues where
  entries : List (String × RequestValue)

namespace RequestValues

def empty : RequestValues := ⟨[]⟩

/-- Puts a value under a key, in the place of what was there. -/
def insert (values : RequestValues) (key : String) (value : RequestValue) : RequestValues :=
  let key := Text.lower key
  ⟨(key, value) :: values.entries.filter (·.1 ≠ key)⟩

/-- The values of a list, later ones in the place of earlier ones. -/
def ofList (pairs : List (String × RequestValue)) : RequestValues :=
  pairs.foldl (fun values (key, value) => values.insert key value) empty

/-- The value under a key in lower case. -/
def get? (values : RequestValues) (key : String) : Option RequestValue := values.entries.lookup key

def size (values : RequestValues) : Nat := values.entries.length

def text (values : RequestValues) (key : String) : String :=
  match values.get? key with
  | some value => value.toText
  | none => ""

def amount (values : RequestValues) (key : String) : Except BindError Int64 :=
  match values.get? key with
  | none => .ok 0
  | some value =>
    match value.toAmount? with
    | some n => .ok n
    | none => .error (.coercion key value.toText)

end RequestValues
end Placard
