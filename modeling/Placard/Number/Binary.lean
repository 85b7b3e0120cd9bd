/-
# Binary numbers laid open

A floating number is not a number, an infinity, or `± significand · 2 ^ power` with whole
`significand` and `power`.  `Binary` is that view, read off the bits of either width; rounding to
whole numbers, widening and narrowing, and the decimal digits of a number are defined on it in exact
arithmetic.
-/

namespace Placard

/-- What a floating number stands for. -/
inductive Binary where
  | nan
  | infinite (negative : Bool)
  /-- The number `significand · 2 ^ power`, with the sign given. -/
  | finite (negative : Bool) (significand : Nat) (power : Int)
  deriving DecidableEq, Repr

namespace Binary

/-- The shape of a binary format: its bits of significand after the point, and of exponent. -/
structure Format where
  fraction : Nat
  exponent : Nat

def double : Format := ⟨52, 11⟩

def single : Format := ⟨23, 8⟩

/-- The largest exponent field, which infinities carry. -/
def Format.top (f : Format) : Nat := 1 <<< f.exponent - 1

/-- The power of two that the last significand bit of the smallest numbers is worth. -/
def Format.floor (f : Format) : Int := 2 - (1 <<< (f.exponent - 1) : Nat) - f.fraction

/-- Lays open a number of format `f` from its bits. -/
def ofBits (f : Format) (bits : Nat) : Binary :=
  let negative := bits >>> (f.fraction + f.exponent) == 1
  let exponent := (bits >>> f.fraction) % 1 <<< f.exponent
  let fraction := bits % 1 <<< f.fraction
  if exponent = f.top then
    if fraction = 0 then .infinite negative else .nan
  else if exponent = 0 then .finite negative fraction f.floor
  else .finite negative (fraction + 1 <<< f.fraction) (f.floor + (exponent - 1))

def ofFloat (x : Float) : Binary := ofBits double x.toBits.toNat

def ofFloat32 (x : Float32) : Binary := ofBits single x.toBits.toNat

/-! ## Rounding to whole numbers -/

/-- Which whole number stands for one between two. -/
inductive Rounding where
  /-- The greatest one not above. -/
  | down
  /-- The least one not below. -/
  | up
  /-- The one nearer zero. -/
  | towardZero
  /-- The nearest one, a half going away from zero. -/
  | halfAway
  deriving DecidableEq

/-- `significand / 2 ^ shift` rounded to a whole number. -/
def shiftDown (r : Rounding) (negative : Bool) (significand shift : Nat) : Nat :=
  let whole := significand >>> shift
  let rest := significand - whole <<< shift
  let raise := match r with
    | .down => negative && rest != 0
    | .up => !negative && rest != 0
    | .towardZero => false
    | .halfAway => 1 <<< shift ≤ 2 * rest
  if raise then whole + 1 else whole

def signed (negative : Bool) (n : Nat) : Int := if negative then -(n : Int) else n

/-- The whole number for a finite number, by the given rounding. -/
def whole (r : Rounding) (negative : Bool) (significand : Nat) (power : Int) : Int :=
  signed negative <|
    if 0 ≤ power then significand <<< power.toNat
    else shiftDown r negative significand (-power).toNat

/-- The whole number between `lo` and `hi` for a number: what lies outside goes to the nearer end,
and what is not a number goes to zero. -/
def toInt (r : Rounding) (lo hi : Int) : Binary → Int
  | .nan => 0
  | .infinite negative => if negative then lo else hi
  | .finite negative significand power => max lo (min hi (whole r negative significand power))

/-! ## From one format to another -/

/-- `significand · 2 ^ power` as the significand and exponent field of format `f`, rounded to the
nearest, a half going to the even neighbour; the field `f.top` with significand zero is an
infinity. -/
def encodeFinite (f : Format) (significand : Nat) (power : Int) : Nat :=
  if significand = 0 then 0
  else
    -- the last place kept: as many bits as the format has, and not below its floor
    let place := max f.floor (power + (significand.log2 : Int) - f.fraction)
    let kept :=
      if place ≤ power then significand <<< (power - place).toNat
      else
        let shift := (place - power).toNat
        let low := significand >>> shift
        let rest := significand - low <<< shift
        if 1 <<< shift < 2 * rest ∨ (1 <<< shift = 2 * rest ∧ low % 2 = 1) then low + 1 else low
    -- a carry out of the significand moves into the exponent field by plain addition
    let field := (place - f.floor).toNat
    min (kept + field <<< f.fraction) (f.top <<< f.fraction)

def encode (f : Format) : Binary → Nat
  | .nan => f.top <<< f.fraction + 1 <<< (f.fraction - 1)
  | .infinite negative => negative.toNat <<< (f.fraction + f.exponent) + f.top <<< f.fraction
  | .finite negative significand power =>
    negative.toNat <<< (f.fraction + f.exponent) + encodeFinite f significand power

end Binary

/-! ## Floating numbers and whole numbers -/

/-- The least 64-bit coordinate. -/
def coordinateMin : Int := Int64.minValue.toInt

/-- The greatest 64-bit coordinate. -/
def coordinateMax : Int := Int64.maxValue.toInt

/-- A whole 64-bit number for `x`; outside the range it is the nearer end. -/
def toCoordinate (r : Binary.Rounding) (x : Float) : Int64 :=
  Int64.ofInt ((Binary.ofFloat x).toInt r coordinateMin coordinateMax)

/-- The nearest whole number, halves away from zero. -/
def nearest (x : Float) : Int64 := toCoordinate .halfAway x

/-- The whole number towards zero. -/
def truncated (x : Float) : Int64 := toCoordinate .towardZero x

/-- The whole number from zero up to the 32-bit limit for `x`, by the given rounding. -/
def toSize (r : Binary.Rounding) (x : Float) : Nat :=
  ((Binary.ofFloat x).toInt r 0 (UInt32.size - 1)).toNat

/-- `x` rounded to a whole number, as a floating number again. -/
def rounded (r : Binary.Rounding) (x : Float) : Float :=
  match Binary.ofFloat x with
  | .finite negative significand power =>
    if 0 ≤ power then x
    else
      let whole := Binary.shiftDown r negative significand (-power).toNat
      Float.ofBits (UInt64.ofNat ((Binary.finite negative whole 0).encode Binary.double))
  | _ => x

/-- The lesser of two numbers; what is not a number gives way. -/
def lesser (a b : Float) : Float :=
  if a.isNaN then b else if b.isNaN then a else if b < a then b else a

/-- The greater of two numbers; what is not a number gives way. -/
def greater (a b : Float) : Float :=
  if a.isNaN then b else if b.isNaN then a else if a < b then b else a

/-- A single as a double, which holds it exactly. -/
def widen (x : Float32) : Float :=
  Float.ofBits (UInt64.ofNat ((Binary.ofFloat32 x).encode Binary.double))

/-- The single nearest to a double, ties to even. -/
def narrow (x : Float) : Float32 :=
  Float32.ofBits (UInt32.ofNat ((Binary.ofFloat x).encode Binary.single))

/-- A coordinate as a double, rounded to the nearest one. -/
def ofCoordinate (n : Int64) : Float :=
  if n < 0 then -(0 - n).toUInt64.toFloat else n.toUInt64.toFloat

end Placard
