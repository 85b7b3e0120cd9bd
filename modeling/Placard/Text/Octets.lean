/-
# Texts from octets

The characters of octets in UTF-8 where some of the octets may be damaged.  The reader is a machine
that takes one octet at a time; each longest run of octets that begins a character and does not end
one comes out as the replacement character.
-/

namespace Placard.Text

/-- The character that stands for what cannot be read. -/
def replacement : Char := Char.ofNat 0xFFFD

/-- A character that has begun: its value so far, how many octets it still needs, and the least and
the greatest value of the next one. -/
structure Pending where
  value : Nat
  needs : Nat
  low : Nat
  high : Nat

/-- What an octet at the start of a character comes to. -/
def beginChar (b : Nat) : List Char × Option Pending :=
  if b < 0x80 then ([Char.ofNat b], none)
  else if 0xC2 ≤ b ∧ b ≤ 0xDF then ([], some ⟨b % 0x20, 1, 0x80, 0xBF⟩)
  else if 0xE0 ≤ b ∧ b ≤ 0xEF then
    ([], some ⟨b % 0x10, 2, if b = 0xE0 then 0xA0 else 0x80, if b = 0xED then 0x9F else 0xBF⟩)
  else if 0xF0 ≤ b ∧ b ≤ 0xF4 then
    ([], some ⟨b % 0x08, 3, if b = 0xF0 then 0x90 else 0x80, if b = 0xF4 then 0x8F else 0xBF⟩)
  else ([replacement], none)

/-- What the next octet comes to. -/
def nextOctet (pending : Option Pending) (b : Nat) : List Char × Option Pending :=
  match pending with
  | none => beginChar b
  | some p =>
    if p.low ≤ b ∧ b ≤ p.high then
      let value := 0x40 * p.value + b % 0x40
      if p.needs ≤ 1 then ([Char.ofNat value], none)
      else ([], some ⟨value, p.needs - 1, 0x80, 0xBF⟩)
    else
      let (cs, pending) := beginChar b
      (replacement :: cs, pending)

/-- The characters of octets after a character that has begun. -/
def readOctets : (pending : Option Pending) → List UInt8 → List Char
  | none, [] => []
  | some _, [] => [replacement]
  | pending, b :: rest =>
    let (cs, pending) := nextOctet pending b.toNat
    cs ++ readOctets pending rest

def ofOctets (bytes : List UInt8) : String := String.ofList (readOctets none bytes)

end Placard.Text
