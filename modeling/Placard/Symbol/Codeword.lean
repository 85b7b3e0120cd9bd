/-
# Codewords

The bits of a payload, cut into octets, padded to the capacity of the symbol and dealt into blocks;
every block is followed by the remainder of its polynomial by a generator over the field of 256
elements.  The blocks are then read off in turn, one codeword of each.
-/
import Placard.Symbol.Version

namespace Placard.Symbol

/-! ## Bits -/

/-- The last `width` bits of a number, the highest first. -/
def bitsOf (width n : Nat) : List Bool := (List.range width).reverse.map n.testBit

/-- The value of bits, the highest first. -/
def valueOf (bits : List Bool) : Nat := bits.foldl (fun n b => 2 * n + b.toNat) 0

/-- A list in parts of `size` elements, the last part possibly shorter; `fuel` parts at most. -/
def chunksFrom {α : Type} (size : Nat) : (fuel : Nat) → List α → List (List α)
  | 0, _ => []
  | fuel + 1, xs => if xs.isEmpty then [] else xs.take size :: chunksFrom size fuel (xs.drop size)

/-- A list in parts of `size` elements, the last part possibly shorter. -/
def chunks {α : Type} (size : Nat) (xs : List α) : List (List α) := chunksFrom size xs.length xs

def Mode.indicator : Mode → Nat
  | .numeric => 1
  | .alphanumeric => 2
  | .byte => 4
  | .kanji => 8

/-- The rank of an octet among the forty-five characters of the alphanumeric mode. -/
def alphanumericRank (b : UInt8) : Nat :=
  if b ≤ 0x39 ∧ 0x30 ≤ b then b.toNat - 0x30
  else if 0x41 ≤ b ∧ b ≤ 0x5A then b.toNat - 0x41 + 10
  else 36 + [0x20, 0x24, 0x25, 0x2A, 0x2B, 0x2D, 0x2E, 0x2F, 0x3A].idxOf b.toNat

/-- The packed value of a double octet. -/
def kanjiRank (lead trail : UInt8) : Nat :=
  let code := lead.toNat * 256 + trail.toNat
  let index := if code < 0xE040 then code - 0x8140 else code - 0xC140
  index / 256 * 0xC0 + index % 256

/-- The bits of the octets of a segment. -/
def dataBits (mode : Mode) (octets : List UInt8) : List Bool :=
  match mode with
  | .numeric =>
    (chunks 3 octets).flatMap fun ds =>
      bitsOf (3 * ds.length + 1) (ds.foldl (fun n d => 10 * n + (d.toNat - 0x30)) 0)
  | .alphanumeric =>
    (chunks 2 octets).flatMap fun cs =>
      bitsOf (5 * cs.length + 1) (cs.foldl (fun n c => 45 * n + alphanumericRank c) 0)
  | .byte => octets.flatMap fun b => bitsOf 8 b.toNat
  | .kanji =>
    (chunks 2 octets).flatMap fun ks =>
      match ks with
      | [lead, trail] => bitsOf 13 (kanjiRank lead trail)
      | _ => []

def segmentBits (v : VersionClass) (payload : Array UInt8) (s : Segment) : List Bool :=
  bitsOf 4 s.mode.indicator ++ bitsOf (s.mode.lengthBits v) s.count ++
    dataBits s.mode (payload.extract s.start s.stop).toList

def padding (count : Nat) : List UInt8 :=
  (List.range count).map fun i => if i % 2 = 0 then 0xEC else 0x11

/-- The data codewords of a payload: its bits, at most four zero bits as an end mark, and
padding. -/
def dataOctets (level : Recovery) (version : Nat) (payload : List UInt8) (ss : List Segment) :
    List UInt8 :=
  let capacity := dataCodewords level version
  let bits := ss.flatMap (segmentBits (.of version) payload.toArray)
  let ended := bits ++ List.replicate (min 4 (8 * capacity - bits.length)) false
  let octets := (chunks 8 ended).map fun o =>
    UInt8.ofNat (valueOf (o ++ List.replicate (8 - o.length) false))
  octets ++ padding (capacity - octets.length)

/-! ## Checks -/

/-- Twice an element of the field whose polynomial is `x⁸ + x⁴ + x³ + x² + 1`. -/
def double (a : UInt8) : UInt8 := if 0x80 ≤ a then (a <<< 1) ^^^ 0x1D else a <<< 1

/-- The product of two elements, by the lower `bits` bits of the second. -/
def timesBits (a b : UInt8) : (bits : Nat) → UInt8
  | 0 => 0
  | bits + 1 => (if b.toNat.testBit bits then timesShifted bits else 0) ^^^ timesBits a b bits
where
  /-- `a` doubled the given number of times. -/
  timesShifted : Nat → UInt8
    | 0 => a
    | n + 1 => double (timesShifted n)

def times (a b : UInt8) : UInt8 := timesBits a b 8

/-- The coefficients, below the leading one, of the product of `x - 2 ^ i` for `i` below `degree`,
the highest first; `root` is the next `2 ^ i`. -/
def generatorFrom : (degree : Nat) → (root : UInt8) → List UInt8 → List UInt8
  | 0, _, g => g
  | degree + 1, root, g =>
    -- (xⁿ + g) (x + root), without its leading coefficient
    let shifted := g ++ [0]
    let scaled := root :: g.map (times root)
    generatorFrom degree (double root) (List.zipWith (· ^^^ ·) shifted scaled)

/-- The generator of a number of check codewords. -/
def generator (degree : Nat) : List UInt8 := generatorFrom degree 1 []

/-- The remainder after one more codeword. -/
def remainderStep (g : List UInt8) (r : List UInt8) (codeword : UInt8) : List UInt8 :=
  let factor := codeword ^^^ r.headD 0
  List.zipWith (· ^^^ ·) (r.drop 1 ++ [0]) (g.map (times factor))

/-- The check codewords of a block. -/
def checks (g : List UInt8) (block : List UInt8) : List UInt8 :=
  block.foldl (remainderStep g) (List.replicate g.length 0)

/-! ## Blocks -/

/-- The data codewords dealt into blocks: the first blocks are of `short` codewords, the others of
one more. -/
def deal (short : Nat) : (shortBlocks longBlocks : Nat) → List UInt8 → List (List UInt8)
  | 0, 0, _ => []
  | 0, long + 1, data => data.take (short + 1) :: deal short 0 long (data.drop (short + 1))
  | n + 1, long, data => data.take short :: deal short n long (data.drop short)

/-- The codewords of the blocks in turn, one of each; `rounds` at most. -/
def interleave : (rounds : Nat) → List (List UInt8) → List UInt8
  | 0, _ => []
  | rounds + 1, blocks =>
    blocks.filterMap List.head? ++ interleave rounds (blocks.map (List.drop 1))

/-- All codewords of a symbol, in the order in which they are drawn. -/
def allCodewords (level : Recovery) (version : Nat) (data : List UInt8) : List UInt8 :=
  let count := blockCount level version
  let checkCount := checksPerBlock level version
  let long := codewords version % count
  let short := codewords version / count - checkCount
  let blocks := deal short (count - long) long data
  let g := generator checkCount
  interleave (short + 1) blocks ++ interleave checkCount (blocks.map (checks g))

end Placard.Symbol
