/-
# Versions and levels

The sizes of symbols: forty versions, each four modules wider than the one before, and four levels
of error correction, which say how many blocks the codewords are dealt into and how many of the
codewords of a block are checks.
-/
import Placard.Symbol.Recovery
import Placard.Symbol.Segment

namespace Placard.Symbol

def versions : List Nat := List.range' 1 40

def side (version : Nat) : Nat := 4 * version + 17

def VersionClass.of (version : Nat) : VersionClass :=
  if version ≤ 9 then .small else if version ≤ 26 then .medium else .large

/-- The largest version of a class. -/
def VersionClass.last : VersionClass → Nat
  | .small => 9
  | .medium => 26
  | .large => 40

/-- The classes in ascending order. -/
def classes : List VersionClass := [.small, .medium, .large]

/-- The modules left for codewords once all fixed patterns are drawn. -/
def dataModules (version : Nat) : Nat :=
  let all := (16 * version + 128) * version + 64
  if version < 2 then all
  else
    let n := version / 7 + 2
    let free := all + 55 - (25 * n - 10) * n
    if version < 7 then free else free - 36

def codewords (version : Nat) : Nat := dataModules version / 8

/-- The check codewords of a block, for the versions from 1 on. -/
def checkTable : Recovery → List Nat
  | .low =>
    [7, 10, 15, 20, 26, 18, 20, 24, 30, 18, 20, 24, 26, 30, 22, 24, 28, 30, 28, 28, 28, 28, 30, 30,
      26, 28, 30, 30, 30, 30, 30, 30, 30, 30, 30, 30, 30, 30, 30, 30]
  | .medium =>
    [10, 16, 26, 18, 24, 16, 18, 22, 22, 26, 30, 22, 22, 24, 24, 28, 28, 26, 26, 26, 26, 28, 28, 28,
      28, 28, 28, 28, 28, 28, 28, 28, 28, 28, 28, 28, 28, 28, 28, 28]
  | .quartile =>
    [13, 22, 18, 26, 18, 24, 18, 22, 20, 24, 28, 26, 24, 20, 30, 24, 28, 28, 26, 30, 28, 30, 30, 30,
      30, 28, 30, 30, 30, 30, 30, 30, 30, 30, 30, 30, 30, 30, 30, 30]
  | .highest =>
    [17, 28, 22, 16, 22, 28, 26, 26, 24, 28, 24, 28, 22, 24, 24, 30, 28, 28, 26, 28, 30, 24, 30, 30,
      30, 30, 30, 30, 30, 30, 30, 30, 30, 30, 30, 30, 30, 30, 30, 30]

/-- The blocks of a symbol, for the versions from 1 on. -/
def blockTable : Recovery → List Nat
  | .low =>
    [1, 1, 1, 1, 1, 2, 2, 2, 2, 4, 4, 4, 4, 4, 6, 6, 6, 6, 7, 8, 8, 9, 9, 10, 12, 12, 12, 13, 14,
      15, 16, 17, 18, 19, 19, 20, 21, 22, 24, 25]
  | .medium =>
    [1, 1, 1, 2, 2, 4, 4, 4, 5, 5, 5, 8, 9, 9, 10, 10, 11, 13, 14, 16, 17, 17, 18, 20, 21, 23, 25,
      26, 28, 29, 31, 33, 35, 37, 38, 40, 43, 45, 47, 49]
  | .quartile =>
    [1, 1, 2, 2, 4, 4, 6, 6, 8, 8, 8, 10, 12, 16, 12, 17, 16, 18, 21, 20, 23, 23, 25, 27, 29, 34,
      34, 35, 38, 40, 43, 45, 48, 51, 53, 56, 59, 62, 65, 68]
  | .highest =>
    [1, 1, 2, 4, 4, 4, 5, 6, 8, 8, 11, 11, 16, 16, 18, 16, 19, 21, 25, 25, 25, 34, 30, 32, 35, 37,
      40, 42, 45, 48, 51, 54, 57, 60, 63, 66, 70, 74, 77, 81]

/-- The check codewords of a block. -/
def checksPerBlock (level : Recovery) (version : Nat) : Nat :=
  (checkTable level).getD (version - 1) 0

def blockCount (level : Recovery) (version : Nat) : Nat :=
  (blockTable level).getD (version - 1) 1

/-- The codewords that carry the payload. -/
def dataCodewords (level : Recovery) (version : Nat) : Nat :=
  codewords version - checksPerBlock level version * blockCount level version

/-- The smallest version that a payload fits in, and its segments there.  The segments are those of
the first class of versions whose largest version holds them. -/
def choose (level : Recovery) (payload : List UInt8) : Option (Nat × List Segment) := do
  let fits (v : VersionClass) (version : Nat) : Bool :=
    totalBits v (segments v payload) ≤ 8 * dataCodewords level version
  let v ← classes.find? fun v => fits v v.last
  let version ← versions.find? (fits v)
  return (version, segments v payload)

end Placard.Symbol
