/-
# Segments of a payload

A symbol carries octets in segments, each in one of four modes.  A finite state machine over classes
of octets cuts a payload where the cheapest mode changes; neighbouring segments are then merged when
one segment in a common mode takes no more bits.  What is gained depends on the width of the length
fields, which grows with the version.
-/

namespace Placard.Symbol

/-- How a segment packs its octets. -/
inductive Mode where
  | numeric
  | alphanumeric
  | byte
  | kanji
  deriving DecidableEq, Repr

/-- The smallest mode that holds what either of two modes holds. -/
def Mode.join : Mode → Mode → Mode
  | .numeric, .numeric => .numeric
  | .numeric, .alphanumeric => .alphanumeric
  | .alphanumeric, .numeric => .alphanumeric
  | .alphanumeric, .alphanumeric => .alphanumeric
  | .kanji, .kanji => .kanji
  | _, _ => .byte

/-- A part of a payload in one mode, from octet `start` up to `stop`. -/
structure Segment where
  mode : Mode
  start : Nat
  stop : Nat
  deriving DecidableEq, Repr

/-! ## Cutting -/

/-- The classes of octets that the cuts depend on. -/
inductive OctetClass where
  | symbol
  | digit
  | letter
  | lead81
  | leadE0
  | leadEB
  | trail
  | trailHigh
  | other
  /-- The end of the payload. -/
  | finish
  deriving DecidableEq

def OctetClass.of (b : UInt8) : OctetClass :=
  let within (lo hi : UInt8) : Bool := lo ≤ b && b ≤ hi
  if b = 0x20 || b = 0x24 || b = 0x25 || b = 0x2A || b = 0x2B || within 0x2D 0x2F || b = 0x3A then
    .symbol
  else if within 0x30 0x39 then .digit
  else if within 0x41 0x5A then .letter
  else if within 0x81 0x9F then .lead81
  else if within 0xE0 0xEA then .leadE0
  else if b = 0xEB then .leadEB
  else if b = 0x40 || within 0x5B 0x7E || b = 0x80 || within 0xA0 0xBF then .trail
  else if within 0xC0 0xDF || within 0xEC 0xFC then .trailHigh
  else .other

/-- What the octets of the segment in hand have been. -/
inductive State where
  | fresh
  | digits
  | letters
  | octets
  /-- A kanji has begun, with a lead that takes any trail. -/
  | lead
  /-- A kanji has begun, with the last lead, which takes the lower trails only. -/
  | lastLead
  | kanji
  deriving DecidableEq

/-- The state after an octet that begins a segment. -/
def State.entry : OctetClass → State
  | .finish => .fresh
  | .symbol => .letters
  | .letter => .letters
  | .digit => .digits
  | .lead81 => .lead
  | .leadE0 => .lead
  | .leadEB => .lastLead
  | .trail => .octets
  | .trailHigh => .octets
  | .other => .octets

/-- What happens before an octet is taken. -/
inductive Cut where
  | none
  /-- The segment in hand ends. -/
  | close (mode : Mode)
  /-- The segment in hand ends, and its last octet, a lead without a trail, is a segment of its
  own. -/
  | dropLead
  deriving DecidableEq

def State.step (s : State) (c : OctetClass) : State × Cut :=
  match s with
  | .fresh => (entry c, .none)
  | .digits => (entry c, if c = .digit then .none else .close .numeric)
  | .letters => (entry c, if c = .symbol ∨ c = .letter then .none else .close .alphanumeric)
  | .octets =>
    (entry c, if c = .trail ∨ c = .trailHigh ∨ c = .other then .none else .close .byte)
  | .lead =>
    if c = .letter ∨ c = .lead81 ∨ c = .leadE0 ∨ c = .leadEB ∨ c = .trail ∨ c = .trailHigh then
      (.kanji, .none)
    else (entry c, .dropLead)
  | .lastLead =>
    if c = .letter ∨ c = .lead81 ∨ c = .trail then (.kanji, .none) else (entry c, .dropLead)
  | .kanji =>
    (entry c, if c = .lead81 ∨ c = .leadE0 ∨ c = .leadEB then .none else .close .kanji)

/-- The segments of a payload from octet `i` on, where the segment in hand began at `start`. -/
def cutFrom : List OctetClass → State → (start i : Nat) → List Segment
  | [], _, _, _ => []
  | c :: cs, s, start, i =>
    let (next, cut) := s.step c
    match cut with
    | .none => cutFrom cs next start (i + 1)
    | .close mode => ⟨mode, start, i⟩ :: cutFrom cs next i (i + 1)
    | .dropLead =>
      if start + 1 = i then ⟨.byte, start, i⟩ :: cutFrom cs next i (i + 1)
      else ⟨.kanji, start, i - 1⟩ :: ⟨.byte, i - 1, i⟩ :: cutFrom cs next i (i + 1)

def cut (payload : List UInt8) : List Segment :=
  cutFrom (payload.map OctetClass.of ++ [.finish]) .fresh 0 0

/-! ## Sizes and merging -/

/-- The versions whose length fields have one width. -/
inductive VersionClass where
  | small
  | medium
  | large
  deriving DecidableEq

/-- The bits of the length field of a segment. -/
def Mode.lengthBits : Mode → VersionClass → Nat
  | .numeric, .small => 10
  | .numeric, .medium => 12
  | .numeric, .large => 14
  | .alphanumeric, .small => 9
  | .alphanumeric, .medium => 11
  | .alphanumeric, .large => 13
  | .byte, .small => 8
  | .byte, _ => 16
  | .kanji, .small => 8
  | .kanji, .medium => 10
  | .kanji, .large => 12

/-- What the length field of a segment says. -/
def Segment.count (s : Segment) : Nat :=
  match s.mode with
  | .kanji => (s.stop - s.start) / 2
  | _ => s.stop - s.start

/-- The bits of a segment without its header. -/
def Segment.dataBits (s : Segment) : Nat :=
  match s.mode with
  | .numeric => (10 * s.count + 2) / 3
  | .alphanumeric => (11 * s.count + 1) / 2
  | .byte => 8 * s.count
  | .kanji => 13 * s.count

def Segment.bits (v : VersionClass) (s : Segment) : Nat :=
  4 + s.mode.lengthBits v + s.dataBits

/-- One segment for two neighbours. -/
def Segment.join (a b : Segment) : Segment := ⟨a.mode.join b.mode, a.start, b.stop⟩

/-- Merges the segment in hand with its followers as long as that takes no more bits. -/
def mergeFrom (v : VersionClass) : Segment → List Segment → List Segment
  | current, [] => [current]
  | current, next :: rest =>
    if (current.join next).bits v ≤ current.bits v + next.bits v then
      mergeFrom v (current.join next) rest
    else current :: mergeFrom v next rest

/-- The segments of a payload, merged for the versions of a class. -/
def segments (v : VersionClass) (payload : List UInt8) : List Segment :=
  match cut payload with
  | [] => []
  | first :: rest => mergeFrom v first rest

def total (counts : List Nat) : Nat := counts.foldr (· + ·) 0

def totalBits (v : VersionClass) (ss : List Segment) : Nat := total (ss.map (Segment.bits v))

end Placard.Symbol
