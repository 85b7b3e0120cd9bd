/-
# Prices

How an amount is written in a locale, with its digits in groups of three, and which of two amounts
(the price and the promotional price) are shown.
-/

namespace Placard

/-- The conventions that amounts are written by. -/
inductive Locale where
  | vi
  | en
  deriving DecidableEq, Repr

namespace Locale

def separator : Locale → Char
  | vi => '.'
  | en => ','

def currency : Locale → String
  | vi => "đ"
  | en => ""

end Locale

namespace Price

/-- The digits of a number with a separator before every group of three. -/
def groups (separator : Char) : List Char → List Char
  | [] => []
  | d :: ds =>
    if ds ≠ [] ∧ ds.length % 3 = 0 then d :: separator :: groups separator ds
    else d :: groups separator ds

def digits (n : Nat) : List Char := (Nat.repr n).toList

/-- An amount with its digits in groups. -/
def grouped (locale : Locale) (amount : Int64) : String :=
  let ds := groups locale.separator (digits amount.toInt.natAbs)
  String.ofList (if amount < 0 then '-' :: ds else ds)

/-- What follows every amount on a frame. -/
def frameSuffix : String := " đ"

/-- An amount as it stands on a frame. -/
def frameLabel (amount : Int64) : String := grouped .vi amount ++ frameSuffix

end Price

/-- Which amounts are shown. -/
inductive Pricing where
  /-- Nothing to show. -/
  | frameOnly
  | single (amount : Int64)
  | promotion (full promo : Int64)
  deriving DecidableEq, Repr

/-- What a price and a promotional price come to: a promotion is a positive amount below the price,
and everything else shows the price alone, if it is positive. -/
def Pricing.ofPrices (price promo : Int64) : Pricing :=
  if price ≤ 0 then .frameOnly
  else if 0 < promo ∧ promo < price then .promotion price promo
  else .single price

end Placard
