/-
# The shortest decimal of a binary number

A floating number stands for an interval of reals: all that are read back as it.  Of the decimals in
the interval, `shortest` finds one with the fewest digits, and among those the nearest to the
number, the greater of two that are equally near.  All comparisons are between whole numbers.
-/
import Placard.Number.Binary

namespace Placard

/-- The number `digits · 10 ^ power`. -/
structure Decimal where
  digits : Nat
  power : Int
  deriving DecidableEq, Repr

namespace Decimal

/-- The interval of reals that are read back as one binary number, in multiples of a unit
`num / den`; `closed` says that the ends belong to it. -/
structure Interval where
  low : Nat
  value : Nat
  high : Nat
  closed : Bool
  num : Nat
  den : Nat

/-- The interval of `significand · 2 ^ power` in format `f`.  A quarter of the last place is the
unit, since the gap below a power of two is half as wide as the gap above. -/
def Interval.of (f : Binary.Format) (significand : Nat) (power : Int) : Interval :=
  let narrowBelow := significand = 1 <<< f.fraction ∧ f.floor < power
  { low := if narrowBelow then 4 * significand - 1 else 4 * significand - 2
    value := 4 * significand
    high := 4 * significand + 2
    closed := significand % 2 = 0
    num := 1 <<< (power - 2).toNat
    den := 1 <<< (2 - power).toNat }

/-- `10 ^ k`, or one if `k` is negative. -/
def powerOfTen (k : Int) : Nat := Nat.pow 10 k.toNat

/-- `n · 10 ^ k` lies in the interval. -/
def Interval.holds (i : Interval) (n : Nat) (k : Int) : Bool :=
  let point := n * powerOfTen k * i.den
  let scale := i.num * powerOfTen (-k)
  if i.closed then i.low * scale ≤ point && point ≤ i.high * scale
  else i.low * scale < point && point < i.high * scale

/-- The greatest `p` with `10 ^ p ≤ num / den`, for positive arguments. -/
def magnitude (num den : Nat) : Int :=
  let guess : Int := (((num.log2 : Int) - (den.log2 : Int)) * 1233).fdiv 4096
  let reaches (p : Int) : Bool := powerOfTen p * den ≤ num * powerOfTen (-p)
  if reaches (guess + 1) then guess + 1
  else if reaches guess then guess
  else if reaches (guess - 1) then guess - 1
  else guess - 2

/-- Of the two neighbours of the number among the multiples of `10 ^ k`, the one that is read back
as the number: the nearer one if both are, and the upper one if they are equally near. -/
def Interval.onGrid (i : Interval) (k : Int) : Option Nat :=
  let point := i.value * i.num * powerOfTen (-k)
  let scale := i.den * powerOfTen k
  let below := point / scale
  let rest := point % scale
  match i.holds below k, i.holds (below + 1) k with
  | true, true => some (if scale ≤ 2 * rest then below + 1 else below)
  | true, false => some below
  | false, true => some (below + 1)
  | false, false => none

/-- The first grid from `10 ^ k` downwards, at most `fuel` of them, with a decimal in the
interval. -/
def Interval.search (i : Interval) : Nat → Int → Decimal
  | 0, k => ⟨i.value * i.num / i.den, k⟩
  | fuel + 1, k =>
    match i.onGrid k with
    | some n => ⟨n, k⟩
    | none => i.search fuel (k - 1)

/-- The decimal without zeros at its end. -/
def trimZeros : Nat → Decimal → Decimal
  | 0, d => d
  | fuel + 1, d =>
    if d.digits ≠ 0 ∧ d.digits % 10 = 0 then trimZeros fuel ⟨d.digits / 10, d.power + 1⟩ else d

/-- The shortest decimal that is read back as `significand · 2 ^ power` in format `f`; seventeen
digits always suffice. -/
def shortest (f : Binary.Format) (significand : Nat) (power : Int) : Decimal :=
  if significand = 0 then ⟨0, 0⟩
  else
    let i := Interval.of f significand power
    trimZeros 2 (i.search 18 (magnitude (i.value * i.num) i.den))

/-! ## Written form -/

/-- How a number is written. -/
structure Style where
  /-- Powers of ten from which on, and below which, an exponent is written. -/
  positional : Option (Int × Int)
  /-- A whole number keeps a point and a zero. -/
  keepsPoint : Bool

/-- Numbers in messages and texts: always positional, and a whole number without a point. -/
def Style.plain : Style := ⟨none, false⟩

/-- Numbers in the listing of a value: positional from `10 ^ -4` and below `10 ^ 16`, a whole number
with a point and a zero. -/
def Style.listing : Style := ⟨some (-4, 16), true⟩

def digitList (n : Nat) : List Char := (Nat.repr n).toList

def positional (keepsPoint : Bool) (d : Decimal) : List Char :=
  let ds := digitList d.digits
  if 0 ≤ d.power then
    ds ++ List.replicate d.power.toNat '0' ++ (if keepsPoint then ['.', '0'] else [])
  else
    let places := (-d.power).toNat
    if places < ds.length then
      ds.take (ds.length - places) ++ ['.'] ++ ds.drop (ds.length - places)
    else ['0', '.'] ++ List.replicate (places - ds.length) '0' ++ ds

/-- The form with an exponent: one digit before the point, and no point after a single digit. -/
def scientific (d : Decimal) : List Char :=
  let ds := digitList d.digits
  let exponent := d.power + (ds.length - 1 : Nat)
  let tail := ds.drop 1
  ds.take 1 ++ (if tail.isEmpty then [] else '.' :: tail) ++ 'e' :: (toString exponent).toList

/-- The decimal is at least `10 ^ lo` and below `10 ^ hi`, or zero. -/
def isBetween (lo hi : Int) (d : Decimal) : Bool :=
  let top := d.power + (digitList d.digits).length - 1
  d.digits = 0 || (lo ≤ top && top < hi)

/-- The written form of a number of format `f`. -/
def write (style : Style) (f : Binary.Format) : Binary → String
  | .nan => "NaN"
  | .infinite negative => if negative then "-inf" else "inf"
  | .finite negative significand power =>
    let d := shortest f significand power
    let form := match style.positional with
      | none => positional style.keepsPoint d
      | some (lo, hi) => if d.isBetween lo hi then positional style.keepsPoint d else scientific d
    String.ofList ((if negative then ['-'] else []) ++ form)

/-- A double as it stands in messages and texts. -/
def ofFloat (x : Float) : String := write .plain Binary.double (Binary.ofFloat x)

/-- A single as it stands in messages. -/
def ofFloat32 (x : Float32) : String := write .plain Binary.single (Binary.ofFloat32 x)

/-- A single as it stands in listings. -/
def listing32 (x : Float32) : String := write .listing Binary.single (Binary.ofFloat32 x)

end Decimal
end Placard
