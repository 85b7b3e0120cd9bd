/-
# The grid of a symbol

Every module of a symbol is either fixed by its place (finders, alignment marks, timing lines, the
version and the format) or carries a bit of a codeword.  The bits are drawn in columns of two, up
and down, and one of eight masks is laid over them: the first of those with the lowest penalty.
-/
import Placard.Symbol.Codeword

namespace Placard.Symbol

/-- The distance between two coordinates. -/
def gap (a b : Nat) : Nat := (a - b) + (b - a)

/-- The greater of the distances along the two axes. -/
def ring (x y cx cy : Nat) : Nat := max (gap x cx) (gap y cy)

/-! ## Fixed modules -/

/-- The coordinates of the centres of alignment marks. -/
def alignmentCentres (version : Nat) : List Nat :=
  if version < 2 then []
  else
    let n := version / 7 + 2
    let step := if version = 32 then 26 else (version * 4 + n * 2 + 1) / (n * 2 - 2) * 2
    6 :: ((List.range (n - 1)).reverse.map fun i => side version - 7 - i * step)

/-- The module of an alignment mark. -/
def alignment? (version x y : Nat) : Option Bool :=
  let last := side version - 7
  let centres := (alignmentCentres version).filter fun c => gap x c ≤ 2
  let across := (alignmentCentres version).filter fun c => gap y c ≤ 2
  match centres, across with
  | [cx], [cy] =>
    if (cx = 6 ∧ cy = 6) ∨ (cx = 6 ∧ cy = last) ∨ (cx = last ∧ cy = 6) then none
    else some (ring x y cx cy ≠ 1)
  | _, _ => none

/-- The module of a finder, or of the light border around it, whose corner is that of the symbol. -/
def finder? (x y : Nat) : Option Bool :=
  if x < 8 ∧ y < 8 then some (ring x y 3 3 ≠ 2 ∧ ring x y 3 3 ≠ 4) else none

/-- The remainder of `n` by the polynomial `divisor` of the given degree, bits taken as
coefficients. -/
def polynomialRest (divisor degree : Nat) : (bits n : Nat) → Nat
  | 0, n => n
  | bits + 1, n =>
    polynomialRest divisor degree bits
      (if n.testBit (bits + degree) then n ^^^ (divisor <<< bits) else n)

/-- The bits of the version, guarded by twelve check bits. -/
def versionBits (version : Nat) : Nat :=
  version <<< 12 + polynomialRest 0x1F25 12 6 (version <<< 12)

/-- The module of one of the two version fields. -/
def versionField? (version x y : Nat) : Option Bool :=
  let edge := side version - 11
  let field (a b : Nat) : Option Bool :=
    if edge ≤ a ∧ a < edge + 3 ∧ b < 6 then
      some ((versionBits version).testBit (3 * b + (a - edge)))
    else none
  if version < 7 then none else (field x y).or (field y x)

/-- The bits that stand for a level. -/
def levelBits : Recovery → Nat
  | .low => 1
  | .medium => 0
  | .quartile => 3
  | .highest => 2

/-- The bits of the format: level and mask, guarded by ten check bits. -/
def formatBits (level : Recovery) (mask : Nat) : Nat :=
  let data := levelBits level * 8 + mask
  (data <<< 10 + polynomialRest 0x537 10 5 (data <<< 10)) ^^^ 0x5412

/-- The place of a format module among the format bits. -/
def formatIndex? (version x y : Nat) : Option Nat :=
  let n := side version
  if x = 8 then
    if y < 6 then some y
    else if y = 7 then some 6
    else if y = 8 then some 7
    else if n - 7 ≤ y then some (y + 15 - n)
    else none
  else if y = 8 then
    if x < 6 then some (14 - x)
    else if x = 7 then some 8
    else if n - 8 ≤ x then some (n - 1 - x)
    else none
  else none

/-- The module at a place that is the same in all symbols of a version. -/
def fixed? (version x y : Nat) : Option Bool :=
  let n := side version
  (finder? x y).or <| (finder? (n - 1 - x) y).or <| (finder? x (n - 1 - y)).or <|
    (alignment? version x y).or <| (versionField? version x y).or <|
      if x = 6 then some (y % 2 = 0)
      else if y = 6 then some (x % 2 = 0)
      else if x = 8 ∧ y + 8 = n then some true
      else none

/-- What a place of a symbol holds. -/
inductive Module where
  | fixed (dark : Bool)
  /-- A bit of the format. -/
  | format (index : Nat)
  /-- A bit of a codeword, or none of any. -/
  | data (bit : Bool)
  deriving Inhabited

/-- What a place holds before any codeword is drawn. -/
def Module.at (version x y : Nat) : Module :=
  match fixed? version x y with
  | some dark => .fixed dark
  | none =>
    match formatIndex? version x y with
    | some index => .format index
    | none => .data false

/-- The place holds a bit of a codeword. -/
def Module.isData : Module → Bool
  | data _ => true
  | _ => false

/-! ## Drawing -/

/-- The columns of two that the bits are drawn in, by their right column, with the direction. -/
def columns (version : Nat) : List (Nat × Bool) :=
  (List.range (side version / 2)).map fun i =>
    let right := side version - 1 - 2 * i
    (if right ≤ 6 then right - 1 else right, i % 2 = 0)

/-- The places of a symbol in the order of drawing. -/
def places (version : Nat) : List (Nat × Nat) :=
  let n := side version
  (columns version).flatMap fun (right, up) =>
    (List.range n).flatMap fun i =>
      let y := if up then n - 1 - i else i
      [(right, y), (right - 1, y)]

/-- The modules of a symbol, row after row, with the bits of its codewords. -/
def draw (version : Nat) (bits : List Bool) : Array Module :=
  let n := side version
  let blank := Array.ofFn fun i : Fin (n * n) => Module.at version (i % n) (i / n)
  let free := ((places version).map fun (x, y) => y * n + x).filter fun i =>
    (blank.getD i default).isData
  (free.zip bits).foldl (fun modules (i, bit) => modules.setIfInBounds i (.data bit)) blank

/-- A mask inverts the module at a place. -/
def inverts (mask x y : Nat) : Bool :=
  match mask with
  | 0 => (x + y) % 2 = 0
  | 1 => y % 2 = 0
  | 2 => x % 3 = 0
  | 3 => (x + y) % 3 = 0
  | 4 => (x / 3 + y / 2) % 2 = 0
  | 5 => x * y % 2 + x * y % 3 = 0
  | 6 => (x * y % 2 + x * y % 3) % 2 = 0
  | _ => ((x + y) % 2 + x * y % 3) % 2 = 0

/-! ## Penalties -/

/-- The penalty of the runs of five and more equal modules in a line. -/
def runPenalty : List Bool → (last : Bool) → (length total : Nat) → Nat
  | [], _, length, total => total + (if 5 ≤ length then length - 2 else 0)
  | m :: ms, last, length, total =>
    if m = last then runPenalty ms last (length + 1) total
    else runPenalty ms m 1 (total + (if 5 ≤ length then length - 2 else 0))

/-- The penalty of what looks like a finder in a line, given how many light modules came before:
the modules of a finder, with four light ones on one side; outside of the symbol all is light. -/
def finderPenalty : (lightBefore : Nat) → List Bool → Nat
  | _, [] => 0
  | light, m :: ms =>
    let here := match m :: ms with
      | true :: false :: true :: true :: true :: false :: true :: after =>
        if 4 ≤ light ∨ (after.take 4).all (! ·) then 40 else 0
      | _ => 0
    here + finderPenalty (if m then 0 else light + 1) ms

/-- The penalty of the squares of four equal modules in two neighbouring lines. -/
def squarePenalty : List Bool → List Bool → Nat
  | a :: b :: as, c :: d :: cs =>
    (if a = b ∧ b = c ∧ c = d then 3 else 0) + squarePenalty (b :: as) (d :: cs)
  | _, _ => 0

/-- The penalty of a line by itself. -/
def linePenalty (line : List Bool) : Nat :=
  runPenalty line false 0 0 + finderPenalty 4 line

/-- The penalty of a number of dark modules. -/
def balancePenalty (dark all : Nat) : Nat := gap (200 * dark / all) 100

/-- The penalty of a symbol, given its rows and its columns.  The three finders themselves do not
count, and their number is the same for all masks. -/
def penalty (rows columns : List (List Bool)) : Nat :=
  let lines := total ((rows ++ columns).map linePenalty)
  let squares := total (List.zipWith squarePenalty rows (rows.drop 1))
  let dark := total (rows.map fun row => row.count true)
  lines + squares + balancePenalty dark (rows.length * rows.length)

end Placard.Symbol
